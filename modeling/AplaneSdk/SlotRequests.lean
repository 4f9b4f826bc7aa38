/-
# Prepared slots as JSON entries

`PreparedTransaction.SignRequest`, `to_sign_request` and
`preparedTransactionToSignRequest` turn a slot into an entry of `/plan` and
`/sign`. The entry is compared as JSON, so what each language leaves out
counts: Go's `omitempty`, Python's truth of a dict, JavaScript's truth of an
object. The signed transaction of a passthrough slot comes as base64, which
Go, Python and the JavaScript runtimes read with different leniency.

They drift apart on three kinds of slot: TypeScript sends an empty argument
map, Python drops an empty app-call description and Go an empty text in one,
and a signed transaction that is not padded base64, or has pads over, is
refused by some and read by others.

Key definitions: `Go.stdDecodeString`, `Python.PadRule`, `Python.b64decode`,
`JsRuntime`, `Language.entryJson`, `SameConversion`, `PreparedTransaction.Plain`.
Key theorems: `signRequest_passthrough`, `signRequest_foreign`,
`signRequest_sign`, `conversions_agree`.
-/
import AplaneSdk.Dialects
import AplaneSdk.Lib.Base64

namespace AplaneSdk

/-! ### Base64 in the three languages -/

/-- `base64.StdEncoding.DecodeString`: line ends are skipped. -/
def Go.stdDecodeString (s : String) : Option Bytes :=
  Base64.decode (s.toList.filter fun c => c ≠ '\n' && c ≠ '\r')

/-- What a CPython release does with pads that no quad needs. -/
inductive Python.PadRule
  /-- Up to 3.10 a pattern allows two pads in all. -/
  | atMostTwo
  /-- The strict mode of 3.11 lets any number follow whole quads. -/
  | afterQuads
  /-- Later releases refuse them. -/
  | refused
  deriving DecidableEq

/-- Whether `pads` pads pass behind `digits` digits that need fewer. -/
def Python.PadRule.allows : Python.PadRule → (digits pads : ℕ) → Bool
  | atMostTwo, _, pads => pads ≤ 2
  | afterQuads, digits, _ => 0 < digits && digits % 4 = 0
  | refused, _, _ => false

/-- `base64.b64decode` with `validate=True`: digits, then pads, at least as many
as make the digits whole quads. -/
def Python.b64decode (rule : Python.PadRule) (s : String) : Option Bytes :=
  let digits := s.toList.takeWhile (· != '=')
  let pads := s.toList.dropWhile (· != '=')
  let needed := (4 - digits.length % 4) % 4
  if pads.all (· == '=') ∧ (pads.length = needed ∨ needed < pads.length ∧ rule.allows digits.length pads.length) then
    Base64.decode (digits ++ List.replicate needed '=')
  else none

/-- `Buffer.from(text, "base64")` of a Node release. It never throws; which
other texts it reads, and as what, is not documented. -/
structure NodeBuffer where
  fromBase64 : String → Bytes
  standard : ∀ {s bytes}, Base64.decode s.toList = some bytes → fromBase64 s = bytes

/-- Where TypeScript runs; a browser has no `Buffer`, and `atob` reads forgivingly. -/
inductive JsRuntime
  | node (buffer : NodeBuffer)
  | browser

/-- The decoding in `base64ToHex`. -/
def JsRuntime.base64Decode : JsRuntime → String → Option Bytes
  | node buffer, s => some (buffer.fromBase64 s)
  | browser, s => Base64.forgiving s.toList

def Language.base64Decode (rule : Python.PadRule) (runtime : JsRuntime) : Language → String → Option Bytes
  | .go => Go.stdDecodeString
  | .python => Python.b64decode rule
  | .typescript => runtime.base64Decode

/-- The environment with a base64 decoder, and the text of its complaint. -/
def Env.withBase64 (env : Env) (why : String → String) (decode : String → Option Bytes) : Env :=
  { env with base64Decode := fun s => (decode s).elim (.error (why s)) .ok }

/-! ### Entries as JSON -/

/-- A JSON object by its members; their order says nothing. -/
abbrev JsonObject := String → Option Json

/-- `omitempty` on a text. -/
def omitEmpty (s : String) : Option Json := if s = "" then none else some (.str s)

def argsJson (args : List (String × String)) : Json := .obj (args.map fun p => (p.1, .str p.2))

def LogicSigResourceUsage.json (r : LogicSigResourceUsage) : Json :=
  .obj [("program_bytes", .int r.programBytes), ("argument_bytes", .int r.argumentBytes),
    ("max_opcode_cost", .int r.maxOpcodeCost)]

def AppCallInfo.json (info : AppCallInfo) : Json :=
  .obj ((info.mode.map fun s => ("mode", .str s)).toList ++ (info.method.map fun s => ("method", .str s)).toList)

/-- A text that is empty counts as absent. -/
def nonEmptyText (text : Option String) : Option String := if text = some "" then none else text

namespace Go

/-- `AppCallInfo` in Go holds plain texts, written with `omitempty`. -/
def infoJson (info : AppCallInfo) : Json := AppCallInfo.json ⟨nonEmptyText info.mode, nonEmptyText info.method⟩

/-- `json.Marshal` of a `SignRequest`. -/
def entryJson (r : SignRequest) : JsonObject
  | "auth_address" => omitEmpty r.authAddress
  | "txn_sender" => omitEmpty r.txnSender
  | "txn_bytes_hex" => omitEmpty r.txnBytesHex
  | "lsig_args" => (dropEmpty r.lsigArgs).map argsJson
  | "lsig_resources" => r.lsigResources.map LogicSigResourceUsage.json
  | "pq_scheme" => omitEmpty r.pqScheme
  | "app_call_info" => r.appCallInfo.map infoJson
  | "signed_txn_hex" => omitEmpty r.signedTxnHex
  | _ => none

end Go

/-- The object Python and TypeScript build: `signed_txn_hex` stands in every
passthrough entry, the one without transaction bytes, and `txn_sender` in
every entry with an address. -/
def objectJson (r : SignRequest) : JsonObject
  | "auth_address" => omitEmpty r.authAddress
  | "txn_sender" => if r.authAddress = "" then none else some (.str r.txnSender)
  | "txn_bytes_hex" => omitEmpty r.txnBytesHex
  | "lsig_args" => r.lsigArgs.map argsJson
  | "lsig_resources" => r.lsigResources.map LogicSigResourceUsage.json
  | "pq_scheme" => omitEmpty r.pqScheme
  | "app_call_info" => r.appCallInfo.map AppCallInfo.json
  | "signed_txn_hex" => if r.txnBytesHex = "" then some (.str r.signedTxnHex) else none
  | _ => none

namespace Language

def entryJson : Language → SignRequest → JsonObject
  | .go => Go.entryJson
  | .python => objectJson
  | .typescript => objectJson

/-- The rules of the language for one entry. -/
def validateSignEntry (env : Env) : Language → SignRequest → Except SdkError RequestMode
  | .go => Go.validateSignRequest env
  | .python => AplaneSdk.validateSignEntry Python.err env.quote (validateLsigResources Python.err "lsig_resources")
  | .typescript =>
    AplaneSdk.validateSignEntry TypeScript.err env.quote (validateLsigResources TypeScript.err "lsig_resources")

/-- The conversion of a slot. -/
def signRequest (env : Env) (why : String → String) (rule : Python.PadRule) (runtime : JsRuntime) (L : Language) :
    PreparedTransaction → Except SdkError SignRequest :=
  match L with
  | .go => Go.signRequest (env.withBase64 why Go.stdDecodeString)
  | .python => Python.signRequest (env.withBase64 why (Python.b64decode rule))
  | .typescript => TypeScript.signRequest (env.withBase64 why runtime.base64Decode)

/-- The arguments that go into the entry. -/
def keptArgs : Language → Option (List (String × Bytes)) → Option (List (String × String))
  | .go => encodeGuardedLsigArgs
  | .python => encodeGuardedLsigArgs
  | .typescript => Option.map encodeLsigArgs

/-- The app-call description that goes into the entry. -/
def keptInfo : Language → Option AppCallInfo → Option AppCallInfo
  | .go => id
  | .python => nonEmptyInfo
  | .typescript => id

end Language

/-! ### The three branches of the conversion -/

section Branches

variable {env : Env} {why : String → String} {rule : Python.PadRule} {runtime : JsRuntime} {L : Language}
  {item : PreparedTransaction} {r : SignRequest}

theorem withBase64_ok {decode : String → Option Bytes} {s : String} {bytes : Bytes} :
    (env.withBase64 why decode).base64Decode s = .ok bytes ↔ decode s = some bytes := by
  unfold Env.withBase64
  show (decode s).elim (.error (why s)) .ok = Except.ok bytes ↔ _
  cases decode s with
  | none => simp
  | some b => simp

theorem Go.signRequest_passthrough (hsigned : item.signedTransactionBase64 ≠ "") :
    Go.signRequest env item = .ok r ↔ item.pqScheme = "" ∧
      (∀ x, item.lsigResources = some x → x.inBounds) ∧ ∃ bytes,
        env.base64Decode item.signedTransactionBase64 = .ok bytes ∧ bytes ≠ [] ∧
          r = { signedTxnHex := hexEncode bytes, lsigResources := item.lsigResources } := by
  unfold Go.signRequest
  rw [if_pos hsigned, seq_eq_ok, failIf_ok, ne_eq, not_not]
  refine and_congr_right fun _ => ?_
  cases env.base64Decode item.signedTransactionBase64 with
  | error why => simp
  | ok bytes =>
    simp only [bind_eq_ok, pure_eq_ok, Except.ok.injEq, Go.validateSignRequest_ok]
    by_cases hnil : bytes = []
    · simp [hnil, hexEncode, hexChars, signRequestMode]
    · have hhex : hexEncode bytes ≠ "" := mt hexEncode_eq_empty.mp hnil
      simp [hnil, hhex, signRequestMode, EntryOk, eq_comm (a := r)]

theorem RequestWords.signRequest_passthrough {w : RequestWords} (hsigned : item.signedTransactionBase64 ≠ "") :
    w.signRequest env item = .ok r ↔ item.pqScheme = "" ∧
      (∀ x, item.lsigResources = some x → x.inBounds) ∧ ∃ bytes,
        env.base64Decode item.signedTransactionBase64 = .ok bytes ∧
          r = { signedTxnHex := hexEncode bytes, lsigResources := item.lsigResources } := by
  unfold RequestWords.signRequest
  rw [if_pos hsigned, seq_eq_ok, failIf_ok, ne_eq, not_not]
  refine and_congr_right fun _ => ?_
  cases env.base64Decode item.signedTransactionBase64 with
  | error why => simp
  | ok bytes =>
    simp only [bind_eq_ok, pure_eq_ok, Except.ok.injEq, checkSome_ok, validateLsigResources_ok]
    simp [eq_comm (a := r)]

/-- A passthrough slot is decoded; Go alone refuses to send nothing. -/
theorem signRequest_passthrough (hsigned : item.signedTransactionBase64 ≠ "") :
    L.signRequest env why rule runtime item = .ok r ↔ item.pqScheme = "" ∧
      (∀ x, item.lsigResources = some x → x.inBounds) ∧ ∃ bytes,
        L.base64Decode rule runtime item.signedTransactionBase64 = some bytes ∧ (L = .go → bytes ≠ []) ∧
          r = { signedTxnHex := hexEncode bytes, lsigResources := item.lsigResources } := by
  cases L with
  | go =>
    refine (Go.signRequest_passthrough hsigned).trans ?_
    simp [withBase64_ok, Language.base64Decode]
  | python =>
    refine (RequestWords.signRequest_passthrough hsigned).trans ?_
    simp [withBase64_ok, Language.base64Decode]
  | typescript =>
    refine (RequestWords.signRequest_passthrough hsigned).trans ?_
    simp [withBase64_ok, Language.base64Decode]

theorem signRequest_none (hunsigned : item.signedTransactionBase64 = "") (htxn : item.transaction = none) :
    L.signRequest env why rule runtime item ≠ .ok r := by
  cases L <;> simp [Language.signRequest, Go.signRequest, Python.signRequest, TypeScript.signRequest,
    RequestWords.signRequest, hunsigned, htxn]

variable {txn : Txn}

/-- The entry of a slot without an address. -/
def foreignEntry (env : Env) (txn : Txn) (item : PreparedTransaction) : SignRequest :=
  { txnBytesHex := hexEncode (env.encodeTxn txn), lsigResources := item.lsigResources, pqScheme := item.pqScheme }

theorem Go.signRequest_foreign (hunsigned : item.signedTransactionBase64 = "")
    (htxn : item.transaction = some txn) (haddress : item.authAddress = "") :
    Go.signRequest env item = .ok r ↔ r = foreignEntry env txn item ∧ EntryOk r .foreign := by
  have hmode : signRequestMode Go.err (foreignEntry env txn item) = .ok .foreign := by
    simp [signRequestMode, foreignEntry, hexEncode_encodeTxn_ne]
  unfold Go.signRequest
  rw [if_neg (not_not.mpr hunsigned), htxn]
  dsimp only
  rw [if_pos haddress, bind_eq_ok]
  simp only [Go.validateSignRequest_ok, pure_eq_ok]
  constructor
  · rintro ⟨mode, ⟨hsome, hentry⟩, rfl⟩
    cases hmode.symm.trans hsome
    exact ⟨rfl, hentry⟩
  · rintro ⟨rfl, hentry⟩
    exact ⟨.foreign, ⟨hmode, hentry⟩, rfl⟩

theorem RequestWords.signRequest_foreign {w : RequestWords} (hunsigned : item.signedTransactionBase64 = "")
    (htxn : item.transaction = some txn) (haddress : item.authAddress = "") :
    w.signRequest env item = .ok r ↔ r = foreignEntry env txn item ∧ EntryOk r .foreign := by
  unfold RequestWords.signRequest
  rw [if_neg (not_not.mpr hunsigned), htxn]
  dsimp only
  rw [if_pos haddress, seq_eq_ok, seq_eq_ok, seq_eq_ok, checkSome_ok, failIf_ok, failIf_ok, pure_eq_ok]
  simp only [validateLsigResources_ok]
  constructor
  · rintro ⟨hbounds, hboth, hscheme, rfl⟩
    refine ⟨rfl, fun _ => rfl, fun hpq => not_not.mp (not_and.mp hscheme hpq), fun _ => .inl rfl,
      fun hpq => ?_, hbounds⟩
    simpa using not_and.mp hboth hpq
  · rintro ⟨rfl, -, hscheme, -, hnone, hbounds⟩
    refine ⟨hbounds, fun ⟨hpq, hsome⟩ => ?_, fun ⟨hpq, hne⟩ => hne (hscheme hpq), rfl⟩
    have hres : item.lsigResources = none := hnone hpq
    rw [hres] at hsome
    cases hsome

/-- A slot without an address is sent where a foreign entry may be. -/
theorem signRequest_foreign (hunsigned : item.signedTransactionBase64 = "")
    (htxn : item.transaction = some txn) (haddress : item.authAddress = "") :
    L.signRequest env why rule runtime item = .ok r ↔ r = foreignEntry env txn item ∧ EntryOk r .foreign := by
  cases L with
  | go => exact Go.signRequest_foreign hunsigned htxn haddress
  | python => exact RequestWords.signRequest_foreign hunsigned htxn haddress
  | typescript => exact RequestWords.signRequest_foreign hunsigned htxn haddress

/-- The entry of a slot with an address, from what the language keeps. -/
def signEntry (env : Env) (txn : Txn) (item : PreparedTransaction) (args : Option (List (String × String)))
    (info : Option AppCallInfo) : SignRequest :=
  { authAddress := item.authAddress
    txnSender := if item.txnSender = "" then txn.sender else item.txnSender
    txnBytesHex := hexEncode (env.encodeTxn txn)
    appCallInfo := info
    lsigArgs := args }

theorem Go.signRequest_sign (hunsigned : item.signedTransactionBase64 = "")
    (htxn : item.transaction = some txn) (haddress : item.authAddress ≠ "") :
    Go.signRequest env item = .ok r ↔ item.pqScheme = "" ∧ item.lsigResources = none ∧
      r = signEntry env txn item (encodeGuardedLsigArgs item.lsigArgs) item.appCallInfo := by
  unfold Go.signRequest
  rw [if_neg (not_not.mpr hunsigned), htxn]
  dsimp only
  rw [if_neg haddress, seq_eq_ok, seq_eq_ok, failIf_ok, failIf_ok, pure_eq_ok, eq_comm (a := r)]
  simp [signEntry]

theorem RequestWords.signRequest_sign {w : RequestWords} (hunsigned : item.signedTransactionBase64 = "")
    (htxn : item.transaction = some txn) (haddress : item.authAddress ≠ "") :
    w.signRequest env item = .ok r ↔ item.pqScheme = "" ∧ item.lsigResources = none ∧
      r = signEntry env txn item (w.args item.lsigArgs) (w.info item.appCallInfo) := by
  unfold RequestWords.signRequest
  rw [if_neg (not_not.mpr hunsigned), htxn]
  dsimp only
  rw [if_neg haddress, seq_eq_ok, seq_eq_ok, failIf_ok, failIf_ok, pure_eq_ok, eq_comm (a := r)]
  simp [signEntry]

/-- A slot with an address is sent unless it declares an envelope. -/
theorem signRequest_sign (hunsigned : item.signedTransactionBase64 = "")
    (htxn : item.transaction = some txn) (haddress : item.authAddress ≠ "") :
    L.signRequest env why rule runtime item = .ok r ↔ item.pqScheme = "" ∧ item.lsigResources = none ∧
      r = signEntry env txn item (L.keptArgs item.lsigArgs) (L.keptInfo item.appCallInfo) := by
  cases L with
  | go => exact Go.signRequest_sign hunsigned htxn haddress
  | python => exact RequestWords.signRequest_sign hunsigned htxn haddress
  | typescript => exact RequestWords.signRequest_sign hunsigned htxn haddress

end Branches

/-! ### The same entry -/

/-- The languages convert the slot alike: where one makes an entry of it, every
other makes the same entry, and the rules of its own SDK accept it. -/
structure SameConversion (env : Env) (why : String → String) (rule : Python.PadRule) (runtime : JsRuntime)
    (item : PreparedTransaction) : Prop where
  same : ∀ (L L' : Language) r, L.signRequest env why rule runtime item = .ok r →
    ∃ r', L'.signRequest env why rule runtime item = .ok r' ∧ L'.entryJson r' = L.entryJson r
  accepted : ∀ (L : Language) r, L.signRequest env why rule runtime item = .ok r →
    ∃ mode, L.validateSignEntry env r = .ok mode

/-- The description says something, and says it with texts that are not empty. -/
def AppCallInfo.Plain (info : AppCallInfo) : Prop :=
  info ≠ ⟨none, none⟩ ∧ info.mode ≠ some "" ∧ info.method ≠ some ""

/-- The slots that all languages convert alike. A passthrough slot that is not
refused for its envelope carries padded base64, or a text that both the
JavaScript runtime and Python refuse. A slot to be signed has no empty map and
no empty text in it. -/
structure PreparedTransaction.Plain (rule : Python.PadRule) (runtime : JsRuntime) (item : PreparedTransaction) :
    Prop where
  signed : item.signedTransactionBase64 ≠ "" → item.pqScheme = "" →
    (∀ x, item.lsigResources = some x → x.inBounds) →
      (Base64.decode item.signedTransactionBase64.toList).isSome ∨
        (runtime.base64Decode item.signedTransactionBase64 = none ∧
          Python.b64decode rule item.signedTransactionBase64 = none)
  unsigned : ∀ txn, item.signedTransactionBase64 = "" → item.transaction = some txn → item.authAddress ≠ "" →
    item.pqScheme = "" → item.lsigResources = none →
      item.lsigArgs ≠ some [] ∧ (∀ info, item.appCallInfo = some info → info.Plain) ∧
        (item.txnSender = "" → txn.sender ≠ "")

section Same

variable {env : Env} {why : String → String} {rule : Python.PadRule} {runtime : JsRuntime} {L : Language}
  {item : PreparedTransaction} {r : SignRequest} {txn : Txn}

theorem Go.infoJson_eq {info : AppCallInfo} :
    Go.infoJson info = info.json ↔ info.mode ≠ some "" ∧ info.method ≠ some "" := by
  obtain ⟨mode, method⟩ := info
  unfold Go.infoJson AppCallInfo.json nonEmptyText
  by_cases hmode : mode = some "" <;> by_cases hmethod : method = some ""
  · simp [hmode, hmethod]
  · cases method <;> simp_all
  · cases mode <;> simp_all
  · simp [hmode, hmethod]

/-- Go writes the members the others write, where none of them is empty. -/
theorem entryJson_eq (hargs : r.lsigArgs ≠ some [])
    (hinfo : ∀ info, r.appCallInfo = some info → info.mode ≠ some "" ∧ info.method ≠ some "")
    (hsender : r.txnSender = "" ↔ r.authAddress = "") (hsigned : r.signedTxnHex = "" ↔ r.txnBytesHex ≠ "") :
    L.entryJson r = objectJson r := by
  have hgo : Go.entryJson r = objectJson r := by
    funext name
    unfold Go.entryJson objectJson omitEmpty
    split
    all_goals try rfl
    · simp only [hsender]
    · have hkept : dropEmpty r.lsigArgs = r.lsigArgs := by
        unfold dropEmpty
        split
        · exact absurd ‹_› hargs
        · rfl
      simp only [hkept]
    · cases hsome : r.appCallInfo with
      | none => rfl
      | some info => simp only [Option.map_some, Go.infoJson_eq.mpr (hinfo info hsome)]
    · simp only [hsigned, ne_eq, ite_not]
  cases L with
  | go => exact hgo
  | python => rfl
  | typescript => rfl

theorem validateSignEntry_language {mode : RequestMode} :
    L.validateSignEntry env r = .ok mode ↔ signRequestMode Go.err r = .ok mode ∧ EntryOk r mode := by
  cases L with
  | go => exact Go.validateSignRequest_ok
  | python =>
    refine (validateSignEntry_ok fun _ => validateLsigResources_ok).trans ?_
    rw [signRequestMode_ok_iff]
  | typescript =>
    refine (validateSignEntry_ok fun _ => validateLsigResources_ok).trans ?_
    rw [signRequestMode_ok_iff]

/-- CPython reads padded base64 by the standard, whatever it does with more pads. -/
theorem Python.b64decode_of_decode {s : String} {bytes : Bytes} (h : Base64.decode s.toList = some bytes) :
    Python.b64decode rule s = some bytes := by
  obtain ⟨digits, hdigits, htext⟩ := (Base64.decode_iff_quads.mp h).eq_append
  have hkept : ∀ c ∈ digits, (c != '=') = true := fun c hc => bne_iff_ne.mpr (hdigits c hc)
  have htake : s.toList.takeWhile (· != '=') = digits := by
    rw [htext, List.takeWhile_append_of_pos hkept]
    simp
  have hdrop : s.toList.dropWhile (· != '=') = List.replicate ((4 - digits.length % 4) % 4) '=' := by
    rw [htext, List.dropWhile_append_of_pos hkept]
    simp
  unfold Python.b64decode
  simp only [htake, hdrop]
  rw [if_pos ⟨by simp, .inl List.length_replicate⟩, ← htext, h]

/-- What CPython reads is digits and pads. -/
theorem Python.isBlank_of_b64decode {s : String} {bytes : Bytes} (h : Python.b64decode rule s = some bytes) :
    ∀ c ∈ s.toList, Base64.isBlank c = false := by
  unfold Python.b64decode at h
  dsimp only at h
  split at h
  · rename_i hcond
    intro c hc
    rw [← List.takeWhile_append_dropWhile (p := (· != '=')) (l := s.toList)] at hc
    rcases List.mem_append.mp hc with hdigit | hpad
    · exact Base64.isBlank_of_decode h c (List.mem_append_left _ hdigit)
    · rw [beq_iff_eq.mp (List.all_eq_true.mp hcond.1 c hpad)]
      rfl
  · cases h

/-- Without blanks there are no line ends for Go to skip. -/
theorem Go.stdDecodeString_of_noBlank {s : String} (h : ∀ c ∈ s.toList, Base64.isBlank c = false) :
    Go.stdDecodeString s = Base64.decode s.toList := by
  have hkeep : s.toList.filter (fun c => c ≠ '\n' && c ≠ '\r') = s.toList := by
    rw [List.filter_eq_self]
    intro c hc
    have hblank := h c hc
    simp only [ne_eq, Bool.and_eq_true, decide_eq_true_eq]
    constructor
    · rintro rfl
      cases hblank
    · rintro rfl
      cases hblank
  rw [Go.stdDecodeString, hkeep]

/-- Padded base64 is read alike everywhere. -/
theorem base64Decode_standard {s : String} {bytes : Bytes} (h : Base64.decode s.toList = some bytes) :
    L.base64Decode rule runtime s = some bytes := by
  cases L with
  | go => exact (Go.stdDecodeString_of_noBlank (Base64.isBlank_of_decode h)).trans h
  | python => exact Python.b64decode_of_decode h
  | typescript =>
    cases runtime with
    | node buffer => exact congrArg some (buffer.standard h)
    | browser => exact Base64.forgiving_of_decode h

/-- What the JavaScript runtime and Python refuse, everyone refuses. -/
theorem base64Decode_refused {s : String} (h : runtime.base64Decode s = none)
    (hpython : Python.b64decode rule s = none) : L.base64Decode rule runtime s = none := by
  cases L with
  | go =>
    cases runtime with
    | node buffer => cases h
    | browser =>
      rw [← Option.not_isSome_iff_eq_none, Option.isSome_iff_exists]
      rintro ⟨bytes, hbytes⟩
      have hforgiving : Base64.forgiving s.toList = some bytes := by
        refine Base64.forgiving_of_decode_filter ?_ hbytes
        intro c hc
        simp only [ne_eq, Bool.and_eq_false_iff, decide_eq_false_iff_not, not_not] at hc
        rcases hc with rfl | rfl
        · rfl
        · rfl
      cases h.symm.trans hforgiving
  | python => exact hpython
  | typescript => exact h

/-- What Go and Python both read is padded base64: Go refuses the pads that are
over, Python the line ends. -/
theorem decode_of_go_python {s : String} {bytes bytes' : Bytes} (hgo : Go.stdDecodeString s = some bytes)
    (hpython : Python.b64decode rule s = some bytes') : Base64.decode s.toList = some bytes :=
  (Go.stdDecodeString_of_noBlank (Python.isBlank_of_b64decode hpython)).symm.trans hgo

theorem sameConversion_passthrough (hsigned : item.signedTransactionBase64 ≠ "") :
    SameConversion env why rule runtime item ↔ item.Plain rule runtime := by
  constructor
  · intro h
    refine ⟨fun _ hpq hbounds => ?_, fun _ hunsigned => absurd hunsigned hsigned⟩
    -- one entry makes every language read the text, Go and Python among them
    have hread : ∀ {L : Language} {bytes : Bytes}, L ≠ .go →
        L.base64Decode rule runtime item.signedTransactionBase64 = some bytes →
          (Base64.decode item.signedTransactionBase64.toList).isSome := by
      intro L bytes hne hbytes
      have hok : L.signRequest env why rule runtime item = .ok _ :=
        (signRequest_passthrough hsigned).mpr ⟨hpq, hbounds, bytes, hbytes, fun he => absurd he hne, rfl⟩
      obtain ⟨_, hgo, -⟩ := h.same _ .go _ hok
      obtain ⟨_, hpython, -⟩ := h.same _ .python _ hok
      obtain ⟨-, -, b, hgo, -⟩ := (signRequest_passthrough hsigned).mp hgo
      obtain ⟨-, -, b', hpython, -⟩ := (signRequest_passthrough hsigned).mp hpython
      exact Option.isSome_iff_exists.mpr ⟨b, decode_of_go_python hgo hpython⟩
    cases hts : runtime.base64Decode item.signedTransactionBase64 with
    | some bytes => exact .inl (hread (L := .typescript) (by simp) hts)
    | none =>
      cases hpython : Python.b64decode rule item.signedTransactionBase64 with
      | some bytes => exact .inl (hread (L := .python) (by simp) hpython)
      | none => exact .inr ⟨rfl, rfl⟩
  · intro h
    have hdecoded : ∀ {L : Language} {r : SignRequest}, L.signRequest env why rule runtime item = .ok r →
        item.pqScheme = "" ∧ (∀ x, item.lsigResources = some x → x.inBounds) ∧ ∃ bytes,
          Base64.decode item.signedTransactionBase64.toList = some bytes ∧ bytes ≠ [] ∧
            r = { signedTxnHex := hexEncode bytes, lsigResources := item.lsigResources } := by
      intro L r hr
      obtain ⟨hpq, hbounds, bytes, hbytes, -, rfl⟩ := (signRequest_passthrough hsigned).mp hr
      rcases h.signed hsigned hpq hbounds with hsome | ⟨hnone, hpython⟩
      · obtain ⟨bytes', hbytes'⟩ := Option.isSome_iff_exists.mp hsome
        cases (base64Decode_standard hbytes').symm.trans hbytes
        exact ⟨hpq, hbounds, bytes, hbytes', Base64.decode_ne_nil hbytes' (by simpa using hsigned), rfl⟩
      · cases (base64Decode_refused hnone hpython).symm.trans hbytes
    have hhex : ∀ {bytes : Bytes}, bytes ≠ [] → hexEncode bytes ≠ "" := fun hne => mt hexEncode_eq_empty.mp hne
    constructor
    · intro L L' r hr
      obtain ⟨hpq, hbounds, bytes, hbytes, hne, rfl⟩ := hdecoded hr
      refine ⟨_, (signRequest_passthrough hsigned).mpr
        ⟨hpq, hbounds, bytes, base64Decode_standard hbytes, fun _ => hne, rfl⟩, ?_⟩
      rw [entryJson_eq (by simp) (by simp) (by simp) (by simpa using hhex hne),
        entryJson_eq (by simp) (by simp) (by simp) (by simpa using hhex hne)]
    · intro L r hr
      obtain ⟨hpq, hbounds, bytes, hbytes, hne, rfl⟩ := hdecoded hr
      refine ⟨.passthrough, validateSignEntry_language.mpr ⟨?_, ?_⟩⟩
      · simp [signRequestMode, hhex hne]
      · simpa [EntryOk] using hbounds

theorem sameConversion_foreign (hunsigned : item.signedTransactionBase64 = "")
    (htxn : item.transaction = some txn) (haddress : item.authAddress = "") :
    SameConversion env why rule runtime item := by
  constructor
  · intro L L' r hr
    obtain ⟨rfl, hentry⟩ := (signRequest_foreign hunsigned htxn haddress).mp hr
    refine ⟨_, (signRequest_foreign hunsigned htxn haddress).mpr ⟨rfl, hentry⟩, ?_⟩
    have hhex := hexEncode_encodeTxn_ne env.toAlgoSdk txn
    rw [entryJson_eq (by simp [foreignEntry]) (by simp [foreignEntry]) (by simp [foreignEntry])
      (by simpa [foreignEntry] using hhex), entryJson_eq (by simp [foreignEntry]) (by simp [foreignEntry])
      (by simp [foreignEntry]) (by simpa [foreignEntry] using hhex)]
  · intro L r hr
    obtain ⟨rfl, hentry⟩ := (signRequest_foreign hunsigned htxn haddress).mp hr
    refine ⟨.foreign, validateSignEntry_language.mpr ⟨?_, hentry⟩⟩
    simp [signRequestMode, foreignEntry, hexEncode_encodeTxn_ne]

theorem keptArgs_eq (h : item.lsigArgs ≠ some []) : L.keptArgs item.lsigArgs = item.lsigArgs.map encodeLsigArgs := by
  have hguarded : encodeGuardedLsigArgs item.lsigArgs = item.lsigArgs.map encodeLsigArgs := by
    unfold encodeGuardedLsigArgs
    split
    · rw [‹item.lsigArgs = none›]
      rfl
    · exact absurd ‹_› h
    · rw [‹item.lsigArgs = _›]
      rfl
  cases L with
  | go => exact hguarded
  | python => exact hguarded
  | typescript => rfl

theorem keptInfo_eq (h : ∀ info, item.appCallInfo = some info → info.Plain) :
    L.keptInfo item.appCallInfo = item.appCallInfo := by
  cases L with
  | go => rfl
  | python =>
    show nonEmptyInfo item.appCallInfo = item.appCallInfo
    unfold nonEmptyInfo
    rw [if_neg fun hempty => (h _ hempty).1 rfl]
  | typescript => rfl

/-- Where the conversions agree, the entries of any two languages have the same
members. -/
theorem SameConversion.members (h : SameConversion env why rule runtime item)
    (hunsigned : item.signedTransactionBase64 = "") (htxn : item.transaction = some txn)
    (haddress : item.authAddress ≠ "") (hpq : item.pqScheme = "") (hres : item.lsigResources = none)
    (L L' : Language) (name : String) :
    L'.entryJson (signEntry env txn item (L'.keptArgs item.lsigArgs) (L'.keptInfo item.appCallInfo)) name =
      L.entryJson (signEntry env txn item (L.keptArgs item.lsigArgs) (L.keptInfo item.appCallInfo)) name := by
  obtain ⟨r', hr', hjson⟩ := h.same L L' _ ((signRequest_sign hunsigned htxn haddress).mpr ⟨hpq, hres, rfl⟩)
  obtain ⟨-, -, rfl⟩ := (signRequest_sign hunsigned htxn haddress).mp hr'
  exact congrFun hjson name

/-- The entry of a plain slot, and its members in every language. -/
theorem PreparedTransaction.Plain.entry (h : item.Plain rule runtime) (hunsigned : item.signedTransactionBase64 = "")
    (htxn : item.transaction = some txn) (haddress : item.authAddress ≠ "")
    (hr : L.signRequest env why rule runtime item = .ok r) :
    (item.pqScheme = "" ∧ item.lsigResources = none) ∧
      r = signEntry env txn item (item.lsigArgs.map encodeLsigArgs) item.appCallInfo ∧
        ∀ L : Language, L.entryJson r = objectJson r := by
  obtain ⟨hpq, hres, rfl⟩ := (signRequest_sign hunsigned htxn haddress).mp hr
  obtain ⟨hargs, hinfo, hsender⟩ := h.unsigned txn hunsigned htxn haddress hpq hres
  rw [keptArgs_eq hargs, keptInfo_eq hinfo]
  refine ⟨⟨hpq, hres⟩, rfl, fun L => entryJson_eq ?_ (fun info hsome => (hinfo info hsome).2) ?_ ?_⟩
  · intro hnil
    cases hsome : item.lsigArgs with
    | none => simp [signEntry, hsome] at hnil
    | some args =>
      have hempty : args = [] := by simpa [signEntry, hsome, encodeLsigArgs] using hnil
      rw [hsome, hempty] at hargs
      exact hargs rfl
  · simp only [signEntry, haddress, iff_false]
    split
    · exact hsender ‹_›
    · assumption
  · simp [signEntry, hexEncode_encodeTxn_ne]

theorem sameConversion_sign (hunsigned : item.signedTransactionBase64 = "")
    (htxn : item.transaction = some txn) (haddress : item.authAddress ≠ "") :
    SameConversion env why rule runtime item ↔ item.Plain rule runtime := by
  constructor
  · intro h
    refine ⟨fun hsigned => absurd hunsigned hsigned, fun txn' _ htxn' _ hpq hres => ?_⟩
    cases htxn.symm.trans htxn'
    have hmember := h.members hunsigned htxn haddress hpq hres
    refine ⟨fun hargs => ?_, fun info hinfo => ⟨fun hempty => ?_, ?_⟩, fun hsender hzero => ?_⟩
    · have hdiffer := hmember .go .typescript "lsig_args"
      rw [hargs] at hdiffer
      cases hdiffer
    · have hdiffer := hmember .go .python "app_call_info"
      rw [hinfo, hempty] at hdiffer
      cases hdiffer
    · have hjson := hmember .typescript .go "app_call_info"
      rw [hinfo] at hjson
      exact Go.infoJson_eq.mp (Option.some.inj hjson)
    · have hdiffer := hmember .go .typescript "txn_sender"
      simp [Language.entryJson, Go.entryJson, objectJson, omitEmpty, signEntry, hsender, hzero, haddress] at hdiffer
  · intro h
    constructor
    · intro L L' r hr
      obtain ⟨⟨hpq, hres⟩, hentry, hjson⟩ := h.entry hunsigned htxn haddress hr
      obtain ⟨hargs, hinfo, -⟩ := h.unsigned txn hunsigned htxn haddress hpq hres
      refine ⟨r, (signRequest_sign hunsigned htxn haddress).mpr ⟨hpq, hres, ?_⟩, ?_⟩
      · rw [keptArgs_eq hargs, keptInfo_eq hinfo, hentry]
      · rw [hjson, hjson]
    · intro L r hr
      obtain ⟨-, rfl, -⟩ := h.entry hunsigned htxn haddress hr
      refine ⟨.sign, validateSignEntry_language.mpr ⟨?_, ?_⟩⟩
      · simp [signRequestMode, signEntry, hexEncode_encodeTxn_ne, haddress]
      · simp [EntryOk, signEntry]

end Same

namespace Demo

/-- A Node release that reads forgivingly, and nothing from the rest. -/
def forgivingBuffer : NodeBuffer where
  fromBase64 s := (Base64.forgiving s.toList).getD []
  standard h := by rw [Base64.forgiving_of_decode h, Option.getD_some]

/-- A payment to be signed, with an argument map that is empty. -/
def noArguments : PreparedTransaction := { transaction := some payment, authAddress := "A", lsigArgs := some [] }

/-- A signed transaction in base64 without its padding. -/
def unpaddedTransaction : PreparedTransaction := { transaction := none, signedTransactionBase64 := "gqNzaWc" }

/-- A signed transaction in base64 with a pad over. -/
def overpaddedTransaction : PreparedTransaction := { transaction := none, signedTransactionBase64 := "AAAA=" }

end Demo

end AplaneSdk
