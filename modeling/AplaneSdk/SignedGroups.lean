/-
# A signed group is whole

`sign_transactions` submits what the signer returned, so a slot that came back
empty must never be joined to the rest. The clients test the texts of the
answer for emptiness and decode them afterwards. Go reads texts only and
decodes strictly, so a slot with a text has bytes. Python's `bytes.fromhex`
passes over blanks, and TypeScript's `hexToBytes` lets an empty array through:
these slots pass the tests and have no bytes.

Key definitions: `Language.signTransactions`, `Language.signTransactionsList`,
`Language.Accepts`, `Language.readSlot`, `NeverPartial`, `Language.Hollow`.
Key theorems: `signTransactions_ok`, `signTransactionsList_of_read`,
`readSlot_nil`, `neverPartial_iff`.
-/
import AplaneSdk.AlgoKit
import AplaneSdk.Encoding
import AplaneSdk.Merge
import AplaneSdk.SignPaths
import AplaneSdk.Strictness

namespace AplaneSdk

open Checks

/-- The text of bytes in base64. -/
def base64Text (bytes : Bytes) : String := String.ofList (Base64.encode bytes)

/-- The reply with its body read into the type of the endpoint. -/
def Reply.decoded {α : Type} (decode : Json → Option α) : Reply Json → Reply α
  | .unreachable why => .unreachable why
  | .http status statusText text envelope body => .http status statusText text envelope (body.bind decode)

/-! ### The calls

Each call is modelled from the finished requests on, with the request id
already chosen and the reply in. `decode` is the JSON decoder of Go, which reads
a body into `GroupSignResponse` or refuses it. -/

namespace Go

/-- The slots `signResponse` returns. -/
def returnedSlots (env : Env) (decode : Json → Option GroupSignResponse) (req : GroupSignRequest)
    (reply : Reply Json) : Except SdkError (List String) := do
  mapErr (SdkError.wrap "invalid sign request: ") (validateGroupSignRequest env req)
  let resp ← acceptSignResponse env req (reply.decoded decode)
  pure resp.signed

def decodeHexText (env : Env) (label : String) (h : String) : Except SdkError Bytes :=
  match hexDecode h with
  | some bytes => .ok bytes
  | none => .error (err (label ++ env.hexError h))

/-- The loop of `hexArrayToBase64`, with the bytes combined so far. -/
def hexArrayToBase64 (env : Env) (combined : Bytes) : List String → Except SdkError String
  | [] => .ok (base64Text combined)
  | h :: rest => do
    let decoded ← decodeHexText env "" h
    hexArrayToBase64 env (combined ++ decoded) rest

def hasForeignRequests (requests : List SignRequest) : Bool := requests.any SignRequest.isForeign

def foreignText : String :=
  "foreign entries are only supported on /plan; use PlanGroup first, then resubmit foreign slots as passthrough"

/-- `SignTransactionsWithOptions`, and `SignTransactions`, whose requests are
never foreign. -/
def signTransactions (env : Env) (decode : Json → Option GroupSignResponse) (req : GroupSignRequest)
    (reply : Reply Json) : Except SdkError String := do
  failIf (hasForeignRequests req.requests = true) (err foreignText)
  let signed ← returnedSlots env decode req reply
  hexArrayToBase64 env [] signed

def signTransactionsList (env : Env) (decode : Json → Option GroupSignResponse) (req : GroupSignRequest)
    (reply : Reply Json) : Except SdkError (List String) := do
  failIf (hasForeignRequests req.requests = true) (err foreignText)
  let signed ← returnedSlots env decode req reply
  mapEach (fun i h => do
    let decoded ← decodeHexText env s!"failed to decode signed transaction {i}: " h
    pure (base64Text decoded)) 0 signed

end Go

def noneReturned : SdkError := { text := "Server returned no signed transactions" }

namespace Python

def emptySlotText : String :=
  "Server returned empty signed transaction slot; use /plan for foreign or partial groups"

/-- `_sign_request` behind the builder. -/
def signSlots (env : Env) (req : GroupSignRequest) (reply : Reply Json) : Except SdkError (List String) := do
  let data ← signRequests env (adapter env) req reply
  failIf (data.signed.isEmpty = true) noneReturned
  mapEach (fun _ h => do
    failIf (h.truthy false = false) { text := emptySlotText }
    let bytes ← unhexItem h
    pure (base64Text bytes)) 0 data.signed

/-- `base64.b64decode` of an element of the list. -/
def decodeElement (s : String) : Except SdkError Bytes :=
  match b64decodeUnvalidated s with
  | some bytes => .ok bytes
  | none => .error (err "")

def signTransactions (env : Env) (req : GroupSignRequest) (reply : Reply Json) : Except SdkError String := do
  let signedList ← signSlots env req reply
  let all ← mapEach (fun _ => decodeElement) 0 signedList
  pure (base64Text all.flatten)

def signTransactionsList (env : Env) (req : GroupSignRequest) (reply : Reply Json) :
    Except SdkError (List String) :=
  signSlots env req reply

end Python

namespace TypeScript

/-- `signRequest` behind the builder. -/
def signSlots (env : Env) (req : GroupSignRequest) (reply : Reply Json) : Except SdkError (List Json) := do
  let data ← signRequests env (adapter env) req reply
  failIf (data.signed.isEmpty = true) noneReturned
  pure data.signed

/-- `hex === ""`. -/
def isEmptyText : Json → Bool
  | .str s => s == ""
  | _ => false

/-- `concatenateSignedTxns`, on what the answer really holds. -/
def concatenateItems (hasBuffer : Bool) (items : List Json) : Except SdkError String := do
  let byteArrays ← mapEach (fun _ => unhexItem) 0 items
  let totalLength := (byteArrays.map List.length).sum
  let combined ← setAll (List.replicate totalLength 0) 0 byteArrays
  bytesToBase64 hasBuffer combined

def incompleteText : String :=
  "signTransactions() cannot produce a complete group when foreign entries are present (some slots are " ++
    "unsigned). Use signTransactionsList() + assembleGroup() instead."

def signTransactions (env : Env) (hasBuffer : Bool) (req : GroupSignRequest) (reply : Reply Json) :
    Except SdkError String := do
  let signedList ← signSlots env req reply
  failIf (signedList.any isEmptyText = true) (err incompleteText)
  concatenateItems hasBuffer signedList

/-- One element of the list of `signTransactionsList`. -/
def listElement (hasBuffer : Bool) (hex : Json) : Except SdkError String :=
  if isEmptyText hex = true then .ok ""
  else do
    let bytes ← unhexItem hex
    bytesToBase64 hasBuffer bytes

def signTransactionsList (env : Env) (hasBuffer : Bool) (req : GroupSignRequest) (reply : Reply Json) :
    Except SdkError (List String) := do
  let signedHexes ← signSlots env req reply
  mapEach (fun _ => listElement hasBuffer) 0 signedHexes

end TypeScript

section Calls

variable (env : Env) (decode : Json → Option GroupSignResponse) (hasBuffer : Bool) (req : GroupSignRequest)
  (reply : Reply Json)

def Language.signTransactions (L : Language) : Except SdkError String :=
  match L with
  | go => Go.signTransactions env decode req reply
  | python => Python.signTransactions env req reply
  | typescript => TypeScript.signTransactions env hasBuffer req reply

def Language.signTransactionsList (L : Language) : Except SdkError (List String) :=
  match L with
  | go => Go.signTransactionsList env decode req reply
  | python => Python.signTransactionsList env req reply
  | typescript => TypeScript.signTransactionsList env hasBuffer req reply

/-! ### The slots of an answer -/

/-- What the client takes for the list of slots. -/
def Language.returned (L : Language) : Option (List Json) :=
  match L with
  | go => (reply.okBody.bind decode).map fun resp => resp.signed.map .str
  | python => reply.okBody.bind fun data => (Python.signedItems (data.get? "signed")).toOption
  | typescript => reply.okBody.bind fun data => (TypeScript.signedItems (data.get? "signed")).toOption

/-- The requests are in order, and so is the answer up to the decoding of its
slots, which are `items`. -/
def Language.Accepts (L : Language) (items : List Json) : Prop :=
  match L with
  | go => (∀ r ∈ req.requests, r.isForeign = false) ∧ Go.validateGroupSignRequest env req = .ok () ∧
      ∃ resp, reply.okBody.bind decode = some resp ∧ Go.decodeMutations resp.mutations ≠ none ∧
        resp.error = "" ∧ SignedOk noText req.requests resp.signed ∧ items = resp.signed.map .str
  | python => Python.validateGroupSignRequest env req = .ok () ∧ items ≠ [] ∧
      ∃ data, reply.okBody = some data ∧ SignedBody env (Python.adapter env) req data items
  | typescript => TypeScript.validateGroupSignRequest env req = .ok () ∧ items ≠ [] ∧
      ∃ data, reply.okBody = some data ∧ SignedBody env (TypeScript.adapter env) req data items

end Calls

/-- The bytes a client takes from a slot, unless it refuses it. -/
def Language.readSlot : Language → Json → Option Bytes
  | .python, .str s => if s = "" then none else fromHex s
  | _, .str s => if s = "" then none else hexDecode s
  | .typescript, .arr [] => some []
  | _, _ => none

/-- The slots that pass for signed and have no bytes: in Python a text of
blanks, in TypeScript an empty array. -/
def Language.Hollow (L : Language) (item : Json) : Prop :=
  match L with
  | go => False
  | python => ∃ s, item = .str s ∧ s ≠ "" ∧ ∀ c ∈ s.toList, isSpace c = true
  | typescript => item = .arr []

/-! ### Slots -/

theorem fromHexChars_nil : ∀ {cs : List Char}, fromHexChars cs = some [] ↔ ∀ c ∈ cs, isSpace c = true
  | [] => by simp [fromHexChars]
  | [c] => by
    by_cases hc : isSpace c = true <;> simp [fromHexChars, hc]
  | c :: d :: rest => by
    rw [fromHexChars, List.forall_mem_cons]
    by_cases hc : isSpace c = true
    · rw [if_pos hc, fromHexChars_nil, and_iff_right hc]
    · rw [if_neg hc]
      simp [hc, Option.bind_eq_some_iff]

theorem hexDecode_nil {s : String} (h : hexDecode s = some []) : s = "" := by
  have hnil : s.toList = [] := by
    unfold hexDecode at h
    match hs : s.toList with
    | [] => rfl
    | [c] =>
      rw [hs] at h
      cases h
    | c :: d :: rest =>
      rw [hs] at h
      simp [unhexChars, Option.bind_eq_some_iff] at h
  exact String.toList_eq_nil_iff.mp hnil

/-- The slots read as no bytes are the hollow ones. -/
theorem readSlot_nil {L : Language} {item : Json} : L.readSlot item = some [] ↔ L.Hollow item := by
  have hstrict : ∀ s : String, (if s = "" then none else hexDecode s) ≠ some [] := by
    intro s h
    by_cases hs : s = ""
    · rw [if_pos hs] at h
      cases h
    · rw [if_neg hs] at h
      exact hs (hexDecode_nil h)
  cases item with
  | str s =>
    cases L with
    | go => exact iff_of_false (hstrict s) id
    | typescript => exact iff_of_false (hstrict s) (fun h => nomatch h)
    | python =>
      show (if s = "" then none else fromHex s) = some [] ↔
        ∃ t, Json.str s = .str t ∧ t ≠ "" ∧ ∀ c ∈ t.toList, isSpace c = true
      by_cases hs : s = ""
      · simp [hs]
      · rw [if_neg hs, fromHex, fromHexChars_nil]
        simp [hs]
  | arr xs => cases L <;> cases xs <;> simp [Language.readSlot, Language.Hollow]
  | _ => cases L <;> simp [Language.readSlot, Language.Hollow]

theorem base64Text_injective {a b : Bytes} (h : base64Text a = base64Text b) : a = b := by
  have hdecode : some a = some b := by
    rw [← Base64.decode_encode a, ← Base64.decode_encode b, String.ofList_injective h]
  exact Option.some.inj hdecode

theorem decode_base64Text (bytes : Bytes) : Base64.decode (base64Text bytes).toList = some bytes := by
  rw [base64Text, String.toList_ofList, Base64.decode_encode]

/-! ### What the calls return -/

section Spec

variable {env : Env} {decode : Json → Option GroupSignResponse} {hasBuffer : Bool} {req : GroupSignRequest}
  {reply : Reply Json} {items : List Json} {slots : List Bytes} {out : String}

theorem Reply.okBody_decoded {α : Type} {decode : Json → Option α} :
    (reply.decoded decode).okBody = reply.okBody.bind decode := by
  cases reply with
  | unreachable why => rfl
  | http status statusText text envelope body =>
    by_cases h : status = 200 <;> simp [Reply.decoded, Reply.okBody, h]

/-- Where no request is foreign, no slot is empty. -/
theorem SignedOk.nonempty {α : Type} {empty : α → Bool} {requests : List SignRequest} {signed : List α}
    (h : SignedOk empty requests signed) (hforeign : ∀ r ∈ requests, r.isForeign = false) :
    ∀ s ∈ signed, empty s = false := by
  intro s hs
  obtain ⟨j, hj, rfl⟩ := List.getElem_of_mem hs
  by_cases hlt : j < requests.length
  · have hslot := h.2.1 j requests[j] (List.getElem?_eq_getElem hlt) (hforeign _ (List.getElem_mem hlt))
    rwa [List.getElem?_eq_getElem hj] at hslot
  · have hmem : signed[j] ∈ signed.drop requests.length := by
      rw [List.mem_iff_getElem]
      refine ⟨j - requests.length, by rw [List.length_drop]; omega, ?_⟩
      rw [List.getElem_drop]
      congr 1
      omega
    exact h.2.2 _ hmem

namespace Go

theorem decodeHexText_ok {label h : String} {bytes : Bytes} :
    decodeHexText env label h = .ok bytes ↔ hexDecode h = some bytes := by
  unfold decodeHexText
  cases hexDecode h <;> simp

/-- The loop appends what the texts denote. -/
theorem hexArrayToBase64_ok : ∀ {hexes : List String} {combined : Bytes},
    hexArrayToBase64 env combined hexes = .ok out ↔
      ∃ slots, Denote hexes slots ∧ out = base64Text (combined ++ slots.flatten)
  | [], combined => by
    simp [hexArrayToBase64, Denote, eq_comm]
  | h :: rest, combined => by
    rw [hexArrayToBase64, bind_eq_ok]
    simp only [decodeHexText_ok, hexArrayToBase64_ok]
    constructor
    · rintro ⟨bytes, hbytes, slots, hslots, rfl⟩
      exact ⟨bytes :: slots, .cons hbytes hslots, by rw [List.flatten_cons, List.append_assoc]⟩
    · rintro ⟨slots, hslots, rfl⟩
      cases hslots with
      | cons hbytes hrest => exact ⟨_, hbytes, _, hrest, by rw [List.flatten_cons, List.append_assoc]⟩

theorem returnedSlots_ok {signed : List String} : returnedSlots env decode req reply = .ok signed ↔
    validateGroupSignRequest env req = .ok () ∧ ∃ resp, reply.okBody.bind decode = some resp ∧
      decodeMutations resp.mutations ≠ none ∧ resp.error = "" ∧ SignedOk noText req.requests resp.signed ∧
      resp.signed = signed := by
  unfold returnedSlots acceptSignResponse
  rw [seq_eq_ok, mapErr_ok]
  refine and_congr_right fun hvalid => ?_
  have hentries : EntriesOk req.requests := validateGroupSignRequest_entries (L := .go) hvalid
  have hskip : ∀ r ∈ req.requests, skipsSlot r = r.isForeign := by
    intro r hr
    obtain ⟨mode, hmode⟩ := hentries.mode hr
    exact skipsSlot_eq (signRequestMode_ok_iff.mp hmode)
  simp only [bind_eq_ok (α := GroupSignResponse), seq_eq_ok, decodeReply_ok, failIf_ok,
    validateGroupSignResponse_ok hskip, pure_eq_ok, Reply.okBody_decoded, not_not, ne_eq]
  constructor
  · rintro ⟨_, ⟨resp, hbody, hmut, herror, hsigned, rfl⟩, rfl⟩
    exact ⟨resp, hbody, hmut, herror, hsigned, rfl⟩
  · rintro ⟨resp, hbody, hmut, herror, hsigned, rfl⟩
    exact ⟨resp, ⟨resp, hbody, hmut, herror, hsigned, rfl⟩, rfl⟩

theorem foreign_check : ¬ hasForeignRequests req.requests = true ↔ ∀ r ∈ req.requests, r.isForeign = false := by
  rw [hasForeignRequests, List.any_eq_true]
  simp only [not_exists, not_and, Bool.not_eq_true]

end Go

/-- The texts of what is read, slot by slot. -/
theorem mapEach_base64Text {α : Type} {f : ℕ → α → Except SdkError String} {read : α → Option Bytes}
    (hf : ∀ k x s, f k x = .ok s ↔ ∃ b, read x = some b ∧ s = base64Text b) {xs : List α} {texts : List String} :
    mapEach f 0 xs = .ok texts ↔
      ∃ slots, List.Forall₂ (fun x b => read x = some b) xs slots ∧ texts = slots.map base64Text := by
  rw [mapEach_rel hf, ← forall₂_comp]
  simp only [forall₂_eq_map]

theorem signRequests_items {a : Adapter} {P : List Json → Prop} :
    (∃ r, signRequests env a req reply = .ok r ∧ P r.signed) ↔ ∃ items, (a.validate req = .ok () ∧
      ∃ data, reply.okBody = some data ∧ SignedBody env a req data items) ∧ P items := by
  constructor
  · rintro ⟨r, hr, hp⟩
    obtain ⟨hvalid, data, hdata, hbody, -⟩ := signRequests_ok.mp hr
    exact ⟨r.signed, ⟨hvalid, data, hdata, hbody⟩, hp⟩
  · rintro ⟨items, ⟨hvalid, data, hdata, hbody⟩, hp⟩
    exact ⟨⟨items, data.get? "mutations"⟩, signRequests_ok.mpr ⟨hvalid, data, hdata, hbody, rfl⟩, hp⟩

namespace Python

theorem readSlot_iff {h : Json} {b : Bytes} :
    Language.readSlot .python h = some b ↔ h.truthy false = true ∧ unhexItem h = .ok b := by
  cases h with
  | str s =>
    show (if s = "" then none else fromHex s) = some b ↔ _
    by_cases hs : s = ""
    · simp [hs, Json.truthy]
    · rw [if_neg hs, unhexItem, Json.truthy]
      cases fromHex s <;> simp [hs]
  | _ => simp [Language.readSlot, unhexItem]

theorem signSlots_ok (decode : Json → Option GroupSignResponse) {texts : List String} :
    signSlots env req reply = .ok texts ↔
    ∃ items slots, Language.Accepts env decode req reply .python items ∧
      List.Forall₂ (fun item b => Language.readSlot .python item = some b) items slots ∧
      texts = slots.map base64Text := by
  unfold signSlots
  have hturn : ∀ (k : ℕ) (h : Json) (s : String), (do
      failIf (h.truthy false = false) { text := emptySlotText }
      let bytes ← unhexItem h
      pure (base64Text bytes)) = .ok s ↔ ∃ b, Language.readSlot .python h = some b ∧ s = base64Text b := by
    intro k h s
    rw [seq_eq_ok, failIf_ok, bind_eq_ok, Bool.not_eq_false]
    simp only [readSlot_iff, pure_eq_ok, exists_and_left, and_assoc, eq_comm (a := s)]
  rw [bind_eq_ok]
  simp only [seq_eq_ok, failIf_ok, List.isEmpty_iff, mapEach_base64Text hturn]
  refine (signRequests_items (P := fun items => items ≠ [] ∧ ∃ slots,
    List.Forall₂ (fun item b => Language.readSlot .python item = some b) items slots ∧
      texts = slots.map base64Text)).trans ?_
  refine exists_congr fun items => ?_
  simp only [Language.Accepts, exists_and_left, ne_eq]
  tauto

theorem decodeElements {slots : List Bytes} :
    mapEach (fun _ => decodeElement) 0 (slots.map base64Text) = .ok slots := by
  rw [mapEach_forall₂, List.forall₂_map_left_iff, List.forall₂_same]
  intro b _
  rw [decodeElement, pythonDecode_of_decode (decode_base64Text b)]

theorem signTransactions_ok : signTransactions env req reply = .ok out ↔
    ∃ items slots, Language.Accepts env decode req reply .python items ∧
      List.Forall₂ (fun item b => Language.readSlot .python item = some b) items slots ∧
      out = base64Text slots.flatten := by
  unfold signTransactions
  simp only [bind_eq_ok, pure_eq_ok, signSlots_ok decode]
  constructor
  · rintro ⟨texts, ⟨items, slots, haccepts, hread, rfl⟩, all, hall, rfl⟩
    obtain rfl := Except.ok.inj (decodeElements.symm.trans hall)
    exact ⟨items, slots, haccepts, hread, rfl⟩
  · rintro ⟨items, slots, haccepts, hread, rfl⟩
    exact ⟨_, ⟨items, slots, haccepts, hread, rfl⟩, slots, decodeElements, rfl⟩

end Python

namespace TypeScript

theorem readSlot_iff {item : Json} {b : Bytes} :
    Language.readSlot .typescript item = some b ↔ isEmptyText item = false ∧ unhexItem item = .ok b := by
  cases item with
  | str s =>
    show (if s = "" then none else hexDecode s) = some b ↔ _
    by_cases hs : s = ""
    · simp [hs, isEmptyText]
    · rw [if_neg hs, unhexItem, isEmptyText]
      cases hexDecode s with
      | some bytes => simp [hs]
      | none =>
        simp only [reduceCtorEq, false_iff, not_and]
        intro _
        split <;> exact fun h => nomatch h
  | arr xs => cases xs <;> simp [Language.readSlot, isEmptyText, unhexItem]
  | _ => simp [Language.readSlot, unhexItem]

theorem signSlots_ok (decode : Json → Option GroupSignResponse) : signSlots env req reply = .ok items ↔
    Language.Accepts env decode req reply .typescript items := by
  unfold signSlots
  rw [bind_eq_ok]
  simp only [seq_eq_ok, failIf_ok, List.isEmpty_iff, pure_eq_ok]
  refine (signRequests_items (P := fun items' => items' ≠ [] ∧ items' = items)).trans ?_
  constructor
  · rintro ⟨_, ⟨hvalid, hbody⟩, hne, rfl⟩
    exact ⟨hvalid, hne, hbody⟩
  · rintro ⟨hvalid, hne, hbody⟩
    exact ⟨items, ⟨hvalid, hbody⟩, hne, rfl⟩

theorem concatenateItems_ok : concatenateItems hasBuffer items = .ok out ↔
    ∃ slots, List.Forall₂ (fun item b => unhexItem item = .ok b) items slots ∧ out = base64Text slots.flatten := by
  unfold concatenateItems
  simp only [bind_eq_ok, mapEach_forall₂]
  refine exists_congr fun slots => and_congr_right fun _ => ?_
  have hcopied := setAll_flatten slots []
  rw [List.nil_append, List.nil_append] at hcopied
  constructor
  · rintro ⟨combined, hcombined, hout⟩
    cases hcopied.symm.trans hcombined
    rw [bytesToBase64_eq] at hout
    exact (Except.ok.inj hout).symm
  · rintro rfl
    exact ⟨slots.flatten, hcopied, bytesToBase64_eq hasBuffer _⟩

theorem signTransactions_ok : signTransactions env hasBuffer req reply = .ok out ↔
    ∃ items slots, Language.Accepts env decode req reply .typescript items ∧
      List.Forall₂ (fun item b => Language.readSlot .typescript item = some b) items slots ∧
      out = base64Text slots.flatten := by
  unfold signTransactions
  rw [bind_eq_ok]
  refine exists_congr fun items => ?_
  rw [signSlots_ok decode, seq_eq_ok, failIf_ok, List.any_eq_true, concatenateItems_ok]
  have hread : ∀ slots : List Bytes,
      List.Forall₂ (fun item b => Language.readSlot .typescript item = some b) items slots ↔
        (∀ item ∈ items, isEmptyText item = false) ∧
          List.Forall₂ (fun item b => unhexItem item = .ok b) items slots := by
    intro slots
    simp only [readSlot_iff]
    exact List.forall₂_and_left items slots
  simp only [hread, not_exists, not_and, Bool.not_eq_true]
  tauto

theorem listElement_of_read {item : Json} {b : Bytes} (h : Language.readSlot .typescript item = some b) :
    listElement hasBuffer item = .ok (base64Text b) := by
  obtain ⟨hne, hb⟩ := readSlot_iff.mp h
  rw [listElement, if_neg (by rw [hne]; exact Bool.false_ne_true), hb]
  exact bytesToBase64_eq hasBuffer b

end TypeScript

namespace Go

theorem readSlot_iff {hexes : List String} (hne : ∀ h ∈ hexes, noText h = false) :
    List.Forall₂ (fun item b => Language.readSlot .go item = some b) (hexes.map .str) slots ↔
      Denote hexes slots := by
  rw [List.forall₂_map_left_iff, Denote]
  have heach : ∀ h ∈ hexes, Language.readSlot .go (.str h) = hexDecode h := by
    intro h hh
    have hsome : h ≠ "" := by simpa [noText] using hne h hh
    exact if_neg hsome
  constructor
  · intro hall
    refine ((List.forall₂_and_left hexes slots).mpr ⟨heach, hall⟩).imp fun h b hb => ?_
    exact hb.1.symm.trans hb.2
  · intro hall
    refine ((List.forall₂_and_left hexes slots).mpr ⟨heach, hall⟩).imp fun h b hb => ?_
    exact hb.1.trans hb.2

theorem signTransactions_ok : signTransactions env decode req reply = .ok out ↔
    ∃ items slots, Language.Accepts env decode req reply .go items ∧
      List.Forall₂ (fun item b => Language.readSlot .go item = some b) items slots ∧
      out = base64Text slots.flatten := by
  unfold signTransactions
  rw [seq_eq_ok]
  simp only [failIf_ok, foreign_check, bind_eq_ok, returnedSlots_ok, hexArrayToBase64_ok, List.nil_append]
  constructor
  · rintro ⟨hforeign, _, ⟨hvalid, resp, hbody, hmut, herror, hsigned, rfl⟩, slots, hdenote, rfl⟩
    have hread := (readSlot_iff (hsigned.nonempty hforeign)).mpr hdenote
    exact ⟨_, slots, ⟨hforeign, hvalid, resp, hbody, hmut, herror, hsigned, rfl⟩, hread, rfl⟩
  · rintro ⟨_, slots, ⟨hforeign, hvalid, resp, hbody, hmut, herror, hsigned, rfl⟩, hread, rfl⟩
    have hdenote := (readSlot_iff (hsigned.nonempty hforeign)).mp hread
    exact ⟨hforeign, _, ⟨hvalid, resp, hbody, hmut, herror, hsigned, rfl⟩, slots, hdenote, rfl⟩

theorem signTransactionsList_of_read (h : Language.Accepts env decode req reply .go items)
    (hread : List.Forall₂ (fun item b => Language.readSlot .go item = some b) items slots) :
    signTransactionsList env decode req reply = .ok (slots.map base64Text) := by
  obtain ⟨hforeign, hvalid, resp, hbody, hmut, herror, hsigned, rfl⟩ := h
  have hdenote := (readSlot_iff (hsigned.nonempty hforeign)).mp hread
  unfold signTransactionsList
  rw [seq_eq_ok, failIf_ok, foreign_check, bind_eq_ok]
  refine ⟨hforeign, resp.signed, returnedSlots_ok.mpr ⟨hvalid, resp, hbody, hmut, herror, hsigned, rfl⟩, ?_⟩
  have hturn : ∀ (k : ℕ) (h s : String), (do
      let decoded ← decodeHexText env s!"failed to decode signed transaction {k}: " h
      pure (base64Text decoded)) = .ok s ↔ ∃ b, hexDecode h = some b ∧ s = base64Text b := by
    intro k h s
    simp only [bind_eq_ok, decodeHexText_ok, pure_eq_ok, eq_comm (a := s)]
  exact (mapEach_base64Text hturn).mpr ⟨slots, hdenote, rfl⟩

end Go

/-- **What a signed group is.** The slots of the answer, read one by one. -/
theorem Language.signTransactions_ok {L : Language} :
    L.signTransactions env decode hasBuffer req reply = .ok out ↔
      ∃ items slots, L.Accepts env decode req reply items ∧
        List.Forall₂ (fun item b => L.readSlot item = some b) items slots ∧ out = base64Text slots.flatten := by
  cases L with
  | go => exact Go.signTransactions_ok
  | python => exact Python.signTransactions_ok
  | typescript => exact TypeScript.signTransactions_ok

theorem Language.signTransactionsList_of_read {L : Language} (h : L.Accepts env decode req reply items)
    (hread : List.Forall₂ (fun item b => L.readSlot item = some b) items slots) :
    L.signTransactionsList env decode hasBuffer req reply = .ok (slots.map base64Text) := by
  cases L with
  | go => exact Go.signTransactionsList_of_read h hread
  | python => exact (Python.signSlots_ok decode).mpr ⟨items, slots, h, hread, rfl⟩
  | typescript =>
    refine bind_eq_ok.mpr ⟨items, (TypeScript.signSlots_ok decode).mpr h, ?_⟩
    rw [mapEach_forall₂, List.forall₂_map_right_iff]
    exact hread.imp fun _ _ => TypeScript.listElement_of_read

theorem Language.returned_of_accepts {L : Language} (h : L.Accepts env decode req reply items) :
    L.returned decode reply = some items := by
  cases L with
  | go =>
    obtain ⟨-, -, resp, hbody, -, -, -, rfl⟩ := h
    show (reply.okBody.bind decode).map _ = _
    rw [hbody, Option.map_some]
  | python =>
    obtain ⟨-, -, data, hdata, hbody⟩ := h
    have hitems : Python.signedItems (data.get? "signed") = .ok items := hbody.items
    show reply.okBody.bind _ = _
    rw [hdata, Option.bind_some, hitems]
    rfl
  | typescript =>
    obtain ⟨-, -, data, hdata, hbody⟩ := h
    have hitems : TypeScript.signedItems (data.get? "signed") = .ok items := hbody.items
    show reply.okBody.bind _ = _
    rw [hdata, Option.bind_some, hitems]
    rfl

theorem Language.length_of_accepts {L : Language} (h : L.Accepts env decode req reply items) :
    req.requests.length ≤ items.length := by
  cases L with
  | go =>
    obtain ⟨-, -, resp, -, -, -, hsigned, rfl⟩ := h
    rw [List.length_map]
    exact hsigned.1
  | python =>
    obtain ⟨-, -, data, -, hbody⟩ := h
    exact hbody.slots.1
  | typescript =>
    obtain ⟨-, -, data, -, hbody⟩ := h
    exact hbody.slots.1

end Spec

/-! ### A signed group is never partial -/

/-- What is promised of a signed group: bytes for every slot of the answer,
which are no fewer than the requests, joined in order, and the same bytes one
by one from `sign_transactions_list`. -/
def NeverPartial (env : Env) (decode : Json → Option GroupSignResponse) (hasBuffer : Bool)
    (req : GroupSignRequest) (reply : Reply Json) (L : Language) : Prop :=
  ∀ out, L.signTransactions env decode hasBuffer req reply = .ok out →
    ∃ (items : List Json) (slots : List Bytes), L.returned decode reply = some items ∧
      slots.length = items.length ∧ (∀ b ∈ slots, b ≠ []) ∧
      req.requests.length ≤ slots.length ∧ Base64.decode out.toList = some slots.flatten ∧
      L.signTransactionsList env decode hasBuffer req reply = .ok (slots.map base64Text)

section Whole

variable {env : Env} {decode : Json → Option GroupSignResponse} {hasBuffer : Bool} {req : GroupSignRequest}
  {reply : Reply Json} {L : Language}

/-- **When a signed group is whole.** Unless all slots of an answer that is in
order can be read and one of them is hollow. -/
theorem neverPartial_iff (env : Env) (decode : Json → Option GroupSignResponse) (hasBuffer : Bool)
    (req : GroupSignRequest) (reply : Reply Json) (L : Language) :
    NeverPartial env decode hasBuffer req reply L ↔
      ∀ items, L.Accepts env decode req reply items → (∀ item ∈ items, L.readSlot item ≠ none) →
        ∀ item ∈ items, ¬ L.Hollow item := by
  constructor
  · intro h items haccepts hall item hitem hhollow
    obtain ⟨slots, hread⟩ := exists_forall₂.mpr fun x hx => Option.ne_none_iff_exists'.mp (hall x hx)
    obtain ⟨items', slots', -, -, hbytes, -, -, hlist⟩ :=
      h _ (Language.signTransactions_ok.mpr ⟨items, slots, haccepts, hread, rfl⟩)
    have hlist' : L.signTransactionsList env decode hasBuffer req reply = .ok (slots.map base64Text) :=
      Language.signTransactionsList_of_read haccepts hread
    have htexts := Except.ok.inj (hlist.symm.trans hlist')
    have hslots : slots' = slots := List.map_injective_iff.mpr (fun _ _ => base64Text_injective) htexts
    obtain ⟨b, hb, hslot⟩ := exists_of_forall₂ hread item hitem
    rw [readSlot_nil.mpr hhollow] at hslot
    exact hbytes b (hslots ▸ hb) (Option.some.inj hslot).symm
  · intro h out hout
    obtain ⟨items, slots, haccepts, hread, rfl⟩ := Language.signTransactions_ok.mp hout
    have hlen : slots.length = items.length := hread.length_eq.symm
    refine ⟨items, slots, Language.returned_of_accepts haccepts, hlen, ?_, ?_, decode_base64Text _, ?_⟩
    · intro b hb hnil
      have hall : ∀ item ∈ items, L.readSlot item ≠ none := by
        intro item hitem
        obtain ⟨b', -, hb'⟩ := exists_of_forall₂ hread item hitem
        rw [hb']
        exact Option.some_ne_none b'
      obtain ⟨item, hitem, hslot⟩ := exists_of_forall₂' hread b hb
      rw [hnil] at hslot
      exact h items haccepts hall item hitem (readSlot_nil.mp hslot)
    · rw [hlen]
      exact Language.length_of_accepts haccepts
    · exact Language.signTransactionsList_of_read haccepts hread

end Whole

namespace Demo

/-- One request to sign, with the id of the call. -/
def oneRequest : GroupSignRequest := { requestId := "sdk-1", requests := oneEntry }

/-- A reply of `/sign` with one slot. -/
def oneSlot (slot : Json) : Reply Json := .http 200 "OK" "" none (some (.obj [("signed", .arr [slot])]))

/-- A call that returns no bytes at all. -/
theorem not_neverPartial {decode : Json → Option GroupSignResponse} {hasBuffer : Bool} {reply : Reply Json}
    {L : Language} (h : L.signTransactions env decode hasBuffer oneRequest reply = .ok "") :
    ¬ NeverPartial env decode hasBuffer oneRequest reply L := by
  intro hwhole
  obtain ⟨items, slots, -, -, hbytes, hlen, hdecode, -⟩ := hwhole "" h
  have hempty : slots.flatten = [] := Option.some.inj (hdecode.symm.trans (by decide))
  have hone : slots ≠ [] := by
    rintro rfl
    exact absurd hlen (by decide)
  obtain ⟨b, hb⟩ := List.exists_mem_of_ne_nil slots hone
  exact hbytes b hb (List.flatten_eq_nil_iff.mp hempty b hb)

/-- Python returns a group without bytes where the slot is a blank, TypeScript
where it is an empty array. -/
theorem signed_without_bytes :
    ¬ NeverPartial env GroupSignResponse.ofJson? true oneRequest (oneSlot (.str " ")) .python ∧
      ¬ NeverPartial env GroupSignResponse.ofJson? true oneRequest (oneSlot (.arr [])) .typescript := by
  refine ⟨not_neverPartial ?_, not_neverPartial ?_⟩
  · decide +kernel
  · decide +kernel

end Demo

end AplaneSdk
