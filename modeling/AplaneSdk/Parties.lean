/-
# Several signers of one group

The documentation has two signers sign a group each on their own, with
`sign_transactions_list`, and `assemble_group` join the two lists, where a slot
that belongs to the other signer is empty. A call to `/sign` refuses the slots
of others, so its list has no empty slot: a list is joined with no other one.
Alone it comes to what `sign_transactions` returns.

Key definitions: `Language.BuiltRequests`, `SignCall`.
Key theorems: `Language.signTransactionsList_ok`, `assembleGroup_calls`.
-/
import AplaneSdk.RequestBuilders
import AplaneSdk.SignedGroups

namespace AplaneSdk

open Checks

/-! ### The requests of the callers -/

/-- The requests that `sign_transactions` and `sign_transactions_list` make. -/
def Language.BuiltRequests (L : Language) (env : Env) (buffer : NodeBuffer) (why : String → String)
    (requests : List SignRequest) : Prop :=
  match L with
  | go => ∃ input, Go.buildSignRequestsWithOptions env why input = .ok requests
  | python => ∃ rule input, Python.buildSignRequestBody env why rule false input = .ok requests
  | typescript => ∃ input, TypeScript.buildSignRequestBody env buffer false input = .ok requests

section Built

variable {env : Env} {buffer : NodeBuffer} {why : String → String} {decode : String → Option Bytes}
  {lsigArgs : IndexedMap String (List (String × Bytes))} {txn : Option Txn} {authAddress : String}
  {passthrough : Option String} {resources : Option LogicSigResourceUsage} {r : SignRequest}
  {requests : List SignRequest} {L : Language}

/-- Where the slots of others are not allowed there are none. -/
theorem BuiltEntry.not_foreign (h : BuiltEntry env decode false lsigArgs txn authAddress passthrough resources r) :
    r.isForeign = false := by
  cases h with
  | passthrough hdecode => rfl
  | foreign htxn hauth hallow => cases hallow
  | sign htxn hauth => simp [SignRequest.isForeign, signModeEntry, hauth]

theorem Reading.Builds.not_foreign {σ κ : Type} [DecidableEq κ] {rd : Reading σ κ} {input : BuilderInput σ κ}
    (hturns : rd.turns input ≤ input.txns.length) (hallow : rd.allowForeign = false)
    (h : rd.Builds env input requests) : ∀ r ∈ requests, r.isForeign = false := by
  obtain ⟨-, hlen, hentries⟩ := h
  intro r hr
  obtain ⟨i, hi, rfl⟩ := List.getElem_of_mem hr
  have hslot : i < input.txns.length := by omega
  have hentry := hentries i _ _ (List.getElem?_eq_getElem hslot) (List.getElem?_eq_getElem hi)
  rw [hallow] at hentry
  exact hentry.not_foreign

/-- Go lets them through the builder and refuses them afterwards. -/
theorem Language.BuiltRequests.not_foreign (hL : L ≠ .go) (h : L.BuiltRequests env buffer why requests) :
    ∀ r ∈ requests, r.isForeign = false := by
  cases L with
  | go => exact absurd rfl hL
  | python =>
    obtain ⟨rule, input, hinput⟩ := h
    exact (Python.builds_iff.mp hinput).not_foreign (Nat.min_le_left ..) rfl
  | typescript =>
    obtain ⟨input, hinput⟩ := h
    exact (TypeScript.builds_iff.mp hinput).not_foreign (Nat.le_refl _) rfl

end Built

/-! ### The list of a call -/

section Lists

variable {env : Env} {buffer : NodeBuffer} {why : String → String} {decode : Json → Option GroupSignResponse}
  {hasBuffer : Bool} {req : GroupSignRequest} {reply : Reply Json} {list : List String} {L : Language}

theorem Go.signTransactionsList_ok : Go.signTransactionsList env decode req reply = .ok list ↔
    ∃ items slots, Language.Accepts env decode req reply .go items ∧
      List.Forall₂ (fun item b => Language.readSlot .go item = some b) items slots ∧
      list = slots.map base64Text := by
  constructor
  · intro h
    unfold Go.signTransactionsList at h
    rw [seq_eq_ok, failIf_ok, Go.foreign_check, bind_eq_ok] at h
    obtain ⟨hforeign, signed, hsigned, hlist⟩ := h
    obtain ⟨hvalid, resp, hbody, hmut, herror, hok, rfl⟩ := Go.returnedSlots_ok.mp hsigned
    have hturn : ∀ (k : ℕ) (h s : String), (do
        let decoded ← Go.decodeHexText env s!"failed to decode signed transaction {k}: " h
        pure (base64Text decoded)) = .ok s ↔ ∃ b, hexDecode h = some b ∧ s = base64Text b := by
      intro k h s
      simp only [bind_eq_ok, Go.decodeHexText_ok, pure_eq_ok, eq_comm (a := s)]
    obtain ⟨slots, hdenote, rfl⟩ := (mapEach_base64Text hturn).mp hlist
    have hread := (Go.readSlot_iff (hok.nonempty hforeign)).mpr hdenote
    exact ⟨_, slots, ⟨hforeign, hvalid, resp, hbody, hmut, herror, hok, rfl⟩, hread, rfl⟩
  · rintro ⟨items, slots, haccepts, hread, rfl⟩
    exact Go.signTransactionsList_of_read haccepts hread

/-- Where no request is foreign, every slot of the list is read. -/
theorem TypeScript.signTransactionsList_ok (hforeign : ∀ r ∈ req.requests, r.isForeign = false)
    (decode : Json → Option GroupSignResponse) :
    TypeScript.signTransactionsList env hasBuffer req reply = .ok list ↔
      ∃ items slots, Language.Accepts env decode req reply .typescript items ∧
        List.Forall₂ (fun item b => Language.readSlot .typescript item = some b) items slots ∧
        list = slots.map base64Text := by
  constructor
  · intro h
    obtain ⟨items, hitems, hlist⟩ := bind_eq_ok.mp h
    have haccepts := (TypeScript.signSlots_ok decode).mp hitems
    obtain ⟨-, -, data, -, hbody⟩ := id haccepts
    have hfull := hbody.slots.nonempty hforeign
    rw [mapEach_forall₂] at hlist
    have hread : List.Forall₂ (fun item s => ∃ b, Language.readSlot .typescript item = some b ∧
        s = base64Text b) items list := by
      refine ((List.forall₂_and_left items list).mpr ⟨hfull, hlist⟩).imp ?_
      rintro item s ⟨htruthy, hs⟩
      have hne : TypeScript.isEmptyText item = false := by
        cases item with
        | str t => simpa [TypeScript.isEmptyText, Json.truthy] using htruthy
        | _ => rfl
      rw [TypeScript.listElement, if_neg (by rw [hne]; exact Bool.false_ne_true), bind_eq_ok] at hs
      obtain ⟨b, hb, htext⟩ := hs
      rw [bytesToBase64_eq] at htext
      exact ⟨b, TypeScript.readSlot_iff.mpr ⟨hne, hb⟩, (Except.ok.inj htext).symm⟩
    rw [← forall₂_comp] at hread
    obtain ⟨slots, hread, htexts⟩ := hread
    exact ⟨items, slots, haccepts, hread, forall₂_eq_map.mp htexts⟩
  · rintro ⟨items, slots, haccepts, hread, rfl⟩
    exact Language.signTransactionsList_of_read (L := .typescript) haccepts hread

/-- **The list of a call.** The texts of all slots of the answer. -/
theorem Language.signTransactionsList_ok (hbuilt : L.BuiltRequests env buffer why req.requests) :
    L.signTransactionsList env decode hasBuffer req reply = .ok list ↔
      ∃ items slots, L.Accepts env decode req reply items ∧
        List.Forall₂ (fun item b => L.readSlot item = some b) items slots ∧ list = slots.map base64Text := by
  cases L with
  | go => exact Go.signTransactionsList_ok
  | python => exact Python.signSlots_ok decode
  | typescript => exact TypeScript.signTransactionsList_ok (hbuilt.not_foreign (by decide)) decode

/-- The list has a text for every slot, unless a slot is hollow. -/
theorem empty_mem_iff {items : List Json} {slots : List Bytes}
    (hread : List.Forall₂ (fun item b => L.readSlot item = some b) items slots) :
    "" ∈ slots.map base64Text ↔ ∃ item ∈ items, L.Hollow item := by
  have hempty : ∀ b : Bytes, base64Text b = "" ↔ b = [] := by
    intro b
    constructor
    · intro h
      exact base64Text_injective h
    · rintro rfl
      rfl
  constructor
  · intro h
    obtain ⟨b, hb, htext⟩ := List.mem_map.mp h
    obtain ⟨item, hitem, hslot⟩ := exists_of_forall₂' hread b hb
    rw [(hempty b).mp htext] at hslot
    exact ⟨item, hitem, readSlot_nil.mp hslot⟩
  · rintro ⟨item, hitem, hhollow⟩
    obtain ⟨b, hb, hslot⟩ := exists_of_forall₂ hread item hitem
    rw [readSlot_nil.mpr hhollow] at hslot
    obtain rfl := Option.some.inj hslot
    exact List.mem_map.mpr ⟨[], hb, rfl⟩

end Lists

/-! ### Joining the lists -/

/-- A call of `sign_transactions_list` that returned a list, for an answer
without hollow slots. -/
structure SignCall (env : Env) (buffer : NodeBuffer) (why : String → String)
    (decode : Json → Option GroupSignResponse) (hasBuffer : Bool) (L : Language) where
  req : GroupSignRequest
  reply : Reply Json
  list : List String
  built : L.BuiltRequests env buffer why req.requests
  signed : L.signTransactionsList env decode hasBuffer req reply = .ok list
  solid : ∀ items, L.returned decode reply = some items → ∀ item ∈ items, ¬ L.Hollow item

section Join

variable {env : Env} {buffer : NodeBuffer} {why : String → String} {decode : Json → Option GroupSignResponse}
  {hasBuffer : Bool} {L : Language} {out : String}

theorem SignCall.slots (call : SignCall env buffer why decode hasBuffer L) :
    ∃ items slots, L.Accepts env decode call.req call.reply items ∧
      List.Forall₂ (fun item b => L.readSlot item = some b) items slots ∧ call.list = slots.map base64Text ∧
      "" ∉ call.list ∧ call.list ≠ [] := by
  obtain ⟨items, slots, haccepts, hread, hlist⟩ := (Language.signTransactionsList_ok call.built).mp call.signed
  refine ⟨items, slots, haccepts, hread, hlist, ?_, ?_⟩
  · rw [hlist, empty_mem_iff hread]
    rintro ⟨item, hitem, hhollow⟩
    exact call.solid items (Language.returned_of_accepts haccepts) item hitem hhollow
  · have hrequests : call.req.requests ≠ [] := by
      cases L with
      | go => exact (validateGroupSignRequest_entries (L := .go) haccepts.2.1).1
      | python => exact (validateGroupSignRequest_entries (L := .python) haccepts.1).1
      | typescript => exact (validateGroupSignRequest_entries (L := .typescript) haccepts.1).1
    have hlen := Language.length_of_accepts haccepts
    have hpos := List.length_pos_of_ne_nil hrequests
    refine List.ne_nil_of_length_pos ?_
    rw [hlist, List.length_map, ← hread.length_eq]
    omega

/-- Lists without empty slots select nothing unless there is only one. -/
theorem selectsSlots_iff {lists : List (List String)} {chosen : List String} (hne : lists ≠ [])
    (hfull : ∀ list ∈ lists, "" ∉ list ∧ list ≠ []) : SelectsSlots lists chosen ↔ lists = [chosen] := by
  constructor
  · intro h
    have hslot : ∀ list ∈ lists, ∀ idx < chosen.length, list.getD idx "" ∈ list := by
      intro list hlist idx hidx
      have hlt : idx < list.length := (h.lengths list hlist).symm ▸ hidx
      rw [List.getD_eq_getElem?_getD, List.getElem?_eq_getElem hlt]
      exact List.getElem_mem hlt
    have hcolumn : ∀ idx < chosen.length, (column lists idx).filter (· ≠ "") = column lists idx := by
      intro idx hidx
      refine List.filter_eq_self.mpr fun entry hentry => ?_
      obtain ⟨list, hlist, rfl⟩ := List.mem_map.mp hentry
      have hmem := hslot list hlist idx hidx
      refine decide_eq_true fun hempty => (hfull list hlist).1 ?_
      rwa [hempty] at hmem
    obtain ⟨list, hlist⟩ := List.exists_mem_of_ne_nil lists hne
    have hpos : 0 < chosen.length := h.lengths list hlist ▸ List.length_pos_of_ne_nil (hfull list hlist).2
    have hone : lists.length = 1 := by
      have hfirst := h.one 0 _ (List.getElem?_eq_getElem hpos)
      rw [hcolumn 0 hpos] at hfirst
      have hlen := congrArg List.length hfirst
      rwa [column, List.length_map] at hlen
    obtain ⟨only, rfl⟩ := List.length_eq_one_iff.mp hone
    have hlen := h.lengths only (List.mem_singleton_self only)
    refine congrArg (fun list => [list]) (List.ext_getElem hlen fun idx hidx hidx' => ?_)
    have hslot := h.one idx _ (List.getElem?_eq_getElem hidx')
    rw [hcolumn idx hidx'] at hslot
    have hentry : only.getD idx "" = chosen[idx] := List.singleton_inj.mp hslot
    rwa [List.getD_eq_getElem?_getD, List.getElem?_eq_getElem hidx] at hentry
  · rintro rfl
    refine ⟨fun list hlist => by rw [List.mem_singleton.mp hlist], fun idx s hs => ?_⟩
    obtain ⟨hidx, rfl⟩ := List.getElem?_eq_some_iff.mp hs
    have hentry : chosen[idx] ≠ "" := by
      intro hempty
      exact (hfull chosen (List.mem_singleton_self chosen)).1 (hempty ▸ List.getElem_mem hidx)
    simp [column, List.getElem?_eq_getElem hidx, hentry]

/-- **Lists are not joined.** `assemble_group` takes what one call returned,
and comes to what `sign_transactions` returns; it refuses the lists of two
calls or more. -/
theorem assembleGroup_calls (calls : List (SignCall env buffer why decode hasBuffer L)) :
    L.assembleGroup buffer why (calls.map SignCall.list) = .ok out ↔
      ∃ call, calls = [call] ∧ L.signTransactions env decode hasBuffer call.req call.reply = .ok out := by
  have hread : ∀ slots : List Bytes,
      List.Forall₂ (fun s b => L.mergeDecode buffer s = some b) (slots.map base64Text) slots := by
    intro slots
    rw [List.forall₂_map_left_iff, List.forall₂_same]
    exact fun b _ => Language.mergeDecode_of_decode (decode_base64Text b)
  rw [assembleGroup_ok]
  constructor
  · rintro ⟨hne, chosen, bytes, hselects, hdecode, rfl⟩
    have hfull : ∀ list ∈ calls.map SignCall.list, "" ∉ list ∧ list ≠ [] := by
      intro list hlist
      obtain ⟨call, -, rfl⟩ := List.mem_map.mp hlist
      obtain ⟨-, -, -, -, -, hempty, hnil⟩ := call.slots
      exact ⟨hempty, hnil⟩
    obtain ⟨call, rfl, rfl⟩ := List.map_eq_singleton_iff.mp ((selectsSlots_iff hne hfull).mp hselects)
    obtain ⟨items, slots, haccepts, hslots, hlist, -, -⟩ := call.slots
    rw [hlist] at hdecode
    have hone : Relator.RightUnique fun s b => L.mergeDecode buffer s = some b := by
      intro s b b' hb hb'
      exact Option.some.inj (hb.symm.trans hb')
    have hbytes : bytes = slots := hone.forall₂ hdecode (hread slots)
    refine ⟨call, rfl, Language.signTransactions_ok.mpr ⟨items, slots, haccepts, hslots, ?_⟩⟩
    rw [hbytes, base64Text]
  · rintro ⟨call, rfl, hsign⟩
    obtain ⟨items, slots, haccepts, hslots, rfl⟩ := Language.signTransactions_ok.mp hsign
    obtain ⟨-, -, -, -, -, hempty, hnil⟩ := call.slots
    have hlist : call.list = slots.map base64Text :=
      Except.ok.inj (call.signed.symm.trans (Language.signTransactionsList_of_read haccepts hslots))
    refine ⟨List.cons_ne_nil _ _, call.list, slots, ?_, ?_, rfl⟩
    · refine (selectsSlots_iff (List.cons_ne_nil _ _) fun list hmem => ?_).mpr rfl
      rw [List.mem_singleton.mp hmem]
      exact ⟨hempty, hnil⟩
    · rw [hlist]
      exact hread slots

end Join

namespace Demo

/-- A call of Go with one transaction that is signed already. -/
noncomputable def passthroughCall : SignCall env lenientBuffer id GroupSignResponse.ofJson? true .go where
  req := { requestId := "sdk-1", requests := [{ signedTxnHex := "000000" }] }
  reply := oneSlot (.str "000000")
  list := ["AAAA"]
  built := ⟨oneTransaction payment (.singleton 0 "AAAA"), by decide +kernel⟩
  signed := by decide +kernel
  solid _ _ _ _ hhollow := hhollow

/-- The list is joined alone, and not with another one. -/
theorem assembleGroup_calls_two :
    Language.assembleGroup .go lenientBuffer id [passthroughCall.list] = .ok "AAAA" ∧
      ∀ out, Language.assembleGroup .go lenientBuffer id [passthroughCall.list, passthroughCall.list] ≠ .ok out := by
  refine ⟨(assembleGroup_calls [passthroughCall]).mpr ⟨passthroughCall, rfl, ?_⟩, fun out hout => ?_⟩
  · decide +kernel
  · obtain ⟨call, hcalls, -⟩ := (assembleGroup_calls [passthroughCall, passthroughCall]).mp hout
    cases hcalls

end Demo

end AplaneSdk
