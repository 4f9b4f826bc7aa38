/-
# What an approver is told of an application call

Component requests carry the app-call metadata of every original position,
as a target or as context. A request `Describes` the prepared group if it
shows, at every position, exactly what the slot was prepared with. The
slots reach the requests through several lists, and each SDK rebuilds them
in its own way: `Language.Keeps` is what has to hold of a slot for a request
to show it unchanged.

Key definitions: `Describes`, `Language.Keeps`, `KeysOf`.
Key theorems: `describes_base`, `describes_indices`, `appCallInfo_kept`.
-/
import AplaneSdk.EndToEnd
import AplaneSdk.Sent

namespace AplaneSdk

open Checks Grouping Interaction Interaction.Prog

/-- The metadata a request carries, by position. -/
def ComponentRequest.described (req : ComponentRequest) : List (ℤ × Option AppCallInfo) :=
  req.targets.map (fun x => (x.targetIndex, x.appCallInfo)) ++
    req.contextualPositions.map fun p => (p.targetIndex, p.appCallInfo)

/-- Every position is shown, and as it was prepared. -/
def Describes (infos : List (Option AppCallInfo)) (req : ComponentRequest) : Prop :=
  ∀ (i : ℕ) info, infos[i]? = some info → ∀ shown, ((i : ℤ), shown) ∈ req.described ↔ shown = info

section Described

variable {hasArgs : Option (List (String × String)) → Bool} {req : ComponentRequest}
  {infos : List (Option AppCallInfo)}

theorem ComponentRequestOk.described_nodup (h : ComponentRequestOk hasArgs req) :
    (req.described.map Prod.fst).Nodup := by
  have hfst : req.described.map Prod.fst =
      req.targets.map (·.targetIndex) ++ req.contextualPositions.map (·.targetIndex) := by
    simp [ComponentRequest.described, Function.comp_def]
  rw [hfst]
  exact h.nodup

/-- A valid request shows one thing at a position. -/
theorem describes_iff (h : ComponentRequestOk hasArgs req) {shownAt : ℕ → Option AppCallInfo}
    (hshown : ∀ i < infos.length, ((i : ℤ), shownAt i) ∈ req.described) :
    Describes infos req ↔ ∀ (i : ℕ) info, infos[i]? = some info → shownAt i = info := by
  refine forall₃_congr fun i info hi => ?_
  obtain ⟨hlt, -⟩ := List.getElem?_eq_some_iff.mp hi
  constructor
  · intro hall
    exact (hall (shownAt i)).mp (hshown i hlt)
  · intro heq shown
    constructor
    · intro hmem
      have := List.inj_on_of_nodup_map h.described_nodup hmem (hshown i hlt) rfl
      rw [← heq, (Prod.mk.inj this).2]
    · intro hinfo
      rw [hinfo, ← heq]
      exact hshown i hlt

end Described

/-! ### What the requests show -/

section Requests

variable {d : Dialect} {frame : ComponentFrame} {kind : ComponentTargetKind} {key : String} {indices : List ℤ}
  {group : List String} {slots : List Slot} {id : String}

/-- The base request shows what the entry of a slot carries. -/
theorem mem_described_base (group : List String) {i : ℕ} {slot : Slot} (hs : slots[i]? = some slot) :
    ((i : ℤ), slot.request.appCallInfo) ∈ (baseComponentRequest group slots).described := by
  have hmem : (slot, i) ∈ slots.zipIdx := List.mem_zipIdx_iff_getElem?.mpr hs
  rw [ComponentRequest.described, List.mem_append, List.mem_map, List.mem_map]
  cases hrole : slot.role with
  | cosigned target maxFee =>
    have htarget : slot.target? = some target := by rw [Slot.target?, hrole]
    exact Or.inl ⟨_, List.mem_filterMap.mpr ⟨(slot, i), hmem, by rw [htarget]; rfl⟩, rfl⟩
  | primary target =>
    have htarget : slot.primary? = some target := by rw [Slot.primary?, hrole]
    exact Or.inr ⟨_, List.mem_filterMap.mpr ⟨(slot, i), hmem, by rw [htarget]; rfl⟩, rfl⟩

/-- What the request for `indices` shows at position `i`. -/
def shownAt (d : Dialect) (frame : ComponentFrame) (indices : List ℤ) (i : ℕ) : Option AppCallInfo :=
  if (i : ℤ) ∈ indices then d.targetInfo (frame.appCallInfo i) else frame.appCallInfo i

theorem mem_described_indices {i : ℕ}
    (hi : i < d.originalCount frame.groupBytesHex.length frame.dummyPositions.length) :
    ((i : ℤ), shownAt d frame indices i) ∈ (componentRequestForIndices d frame kind key indices).described := by
  rw [ComponentRequest.described, List.mem_append, List.mem_map, List.mem_map, shownAt]
  by_cases hmem : (i : ℤ) ∈ indices
  · rw [if_pos hmem]
    exact Or.inl ⟨_, List.mem_map_of_mem hmem, rfl⟩
  · rw [if_neg hmem]
    refine Or.inr ⟨_, List.mem_map_of_mem (List.mem_filter.mpr ⟨?_, by simpa using hmem⟩), rfl⟩
    exact List.mem_map.mpr ⟨i, List.mem_range.mpr hi, rfl⟩

/-- The base request describes a group whose entries kept the metadata. -/
theorem describes_base {infos : List (Option AppCallInfo)} (hl : d.calls.Lawful) (hlen : slots.length = infos.length)
    (hvalid : d.calls.validateComponentRequest { baseComponentRequest group slots with requestId := id } = .ok ()) :
    Describes infos { baseComponentRequest group slots with requestId := id } ↔
      ∀ (i : ℕ) info, infos[i]? = some info → ((slots[i]?).bind fun slot => slot.request.appCallInfo) = info := by
  obtain ⟨_, hok⟩ := hl.componentRequest hvalid
  refine describes_iff hok fun i hlt => ?_
  have hs := List.getElem?_eq_getElem (hlen ▸ hlt : i < slots.length)
  rw [hs]
  exact mem_described_base group hs

/-- A request for indices describes a group whose frame kept the metadata. -/
theorem describes_indices {infos : List (Option AppCallInfo)} (hl : d.calls.Lawful)
    (hcount : infos.length ≤ d.originalCount frame.groupBytesHex.length frame.dummyPositions.length)
    (hvalid : d.calls.validateComponentRequest
      { componentRequestForIndices d frame kind key indices with requestId := id } = .ok ()) :
    Describes infos { componentRequestForIndices d frame kind key indices with requestId := id } ↔
      ∀ (i : ℕ) info, infos[i]? = some info → shownAt d frame indices i = info := by
  obtain ⟨_, hok⟩ := hl.componentRequest hvalid
  exact describes_iff hok fun i hi => mem_described_indices (lt_of_lt_of_le hi hcount)

end Requests

/-! ### What the slots carry -/

/-- The metadata of an entry to be signed; Python drops an empty mapping. -/
def Language.requestInfo (info : Option AppCallInfo) : Language → Option AppCallInfo
  | go => info
  | python => nonEmptyInfo info
  | typescript => info

/-- The metadata of a foreign entry of a bounded group. -/
def Language.foreignInfo (info : Option AppCallInfo) : Language → Option AppCallInfo
  | go => none
  | python => nonEmptyInfo info
  | typescript => none

theorem Go.signRequest_info {env : Env} {item : PreparedTransaction} {req : SignRequest}
    (hunsigned : item.signedTransactionBase64 = "") (haddress : item.authAddress ≠ "")
    (h : Go.signRequest env item = .ok req) :
    req.authAddress = item.authAddress ∧ req.appCallInfo = item.appCallInfo := by
  unfold Go.signRequest at h
  rw [if_neg (not_not.mpr hunsigned)] at h
  split at h
  · cases h
  · simp only [if_neg haddress, bind_eq_ok, pure_eq_ok] at h
    obtain ⟨_, -, _, -, rfl⟩ := h
    exact ⟨rfl, rfl⟩

theorem RequestWords.signRequest_info {w : RequestWords} {env : Env} {item : PreparedTransaction}
    {req : SignRequest} (hunsigned : item.signedTransactionBase64 = "") (haddress : item.authAddress ≠ "")
    (h : w.signRequest env item = .ok req) :
    req.authAddress = item.authAddress ∧ req.appCallInfo = w.info item.appCallInfo := by
  unfold RequestWords.signRequest at h
  rw [if_neg (not_not.mpr hunsigned)] at h
  split at h
  · cases h
  · simp only [if_neg haddress, bind_eq_ok, pure_eq_ok] at h
    obtain ⟨_, -, _, -, rfl⟩ := h
    exact ⟨rfl, rfl⟩

section Slots

variable {env : Env} {i : ℕ} {item : PreparedTransaction} {txn : Txn} {key : KeyInfo} {slot : Slot}

/-- The entry of a slot to be signed has its address and its metadata. -/
theorem signRequest_info (L : Language) {req : SignRequest} (hunsigned : item.signedTransactionBase64 = "")
    (haddress : item.authAddress ≠ "") (h : (L.dialect env).rules.signRequest i item = .ok req) :
    req.authAddress = item.authAddress ∧ req.appCallInfo = L.requestInfo item.appCallInfo := by
  cases L with
  | go => exact Go.signRequest_info hunsigned haddress (mapErr_ok.mp h)
  | python => exact RequestWords.signRequest_info hunsigned haddress h
  | typescript => exact RequestWords.signRequest_info hunsigned haddress h

theorem foreignRequestOf_ok {err : String → SdkError} {label : String}
    {info : Option AppCallInfo → Option AppCallInfo} {resources : Option LogicSigResourceUsage} {req : SignRequest}
    (h : foreignRequestOf err label info env i item txn key resources = .ok req) :
    item.authAddress ≠ "" ∧ ∃ scheme, preparedForeignPqScheme (pqForbidden err i) key resources = .ok scheme ∧
      req = { txnBytesHex := hexEncode (env.encodeTxn txn), lsigResources := resources, pqScheme := scheme,
              appCallInfo := info item.appCallInfo } := by
  simp only [foreignRequestOf, bind_eq_ok, failIf_ok, pure_eq_ok] at h
  obtain ⟨_, haddress, _, -, scheme, hscheme, rfl⟩ := h
  exact ⟨haddress, scheme, hscheme, rfl⟩

/-- The foreign entry of a primary slot declares the resources and the scheme
of its key. -/
theorem foreignRequest_ok (L : Language) {resources : Option LogicSigResourceUsage} {req : SignRequest}
    (h : (L.dialect env).rules.foreignRequest i item txn key resources = .ok req) :
    item.authAddress ≠ "" ∧ ∃ forbidden scheme, preparedForeignPqScheme forbidden key resources = .ok scheme ∧
      req = { txnBytesHex := hexEncode (env.encodeTxn txn), lsigResources := resources, pqScheme := scheme,
              appCallInfo := L.foreignInfo item.appCallInfo } := by
  cases L with
  | go =>
    have h : Go.foreignRequest env i item txn key resources = .ok req := h
    simp only [Go.foreignRequest, bind_eq_ok, failIf_ok, pure_eq_ok] at h
    obtain ⟨scheme, hscheme, _, haddress, rfl⟩ := h
    exact ⟨haddress, _, scheme, hscheme, rfl⟩
  | python =>
    obtain ⟨haddress, scheme, hscheme, hreq⟩ := foreignRequestOf_ok h
    exact ⟨haddress, _, scheme, hscheme, hreq⟩
  | typescript =>
    have h : foreignRequestOf TypeScript.err "lsigResources" (fun _ => none) env i item txn key resources =
      .ok req := h
    obtain ⟨haddress, scheme, hscheme, hreq⟩ := foreignRequestOf_ok h
    exact ⟨haddress, _, scheme, hscheme, hreq⟩

/-- The metadata in the entry of a slot of a bounded group. -/
theorem sortBounded_entryInfo (L : Language) (hunsigned : item.signedTransactionBase64 = "")
    (h : sortBounded (L.dialect env).rules i item txn key = .ok slot) :
    slot.request.appCallInfo =
      if key.signingFlow = signingFlowBoundedCosigner1 then L.requestInfo item.appCallInfo
      else L.foreignInfo item.appCallInfo := by
  obtain ⟨-, resources, -, ⟨hflow, haddress, hreq, -⟩ | ⟨hflow, hreq, -⟩⟩ := sortBounded_inv h
  · rw [if_pos hflow]
    exact (signRequest_info L hunsigned haddress hreq).2
  · obtain ⟨-, _, _, -, hreq⟩ := foreignRequest_ok L hreq
    rw [if_neg hflow, hreq]

theorem sortBounded_info {rules : SlotRules} (h : sortBounded rules i item txn key = .ok slot) :
    slot.appCallInfo = item.appCallInfo := by
  obtain ⟨-, _, -, ⟨-, -, -, _, _, -, -, hrole⟩ | ⟨-, -, hrole⟩⟩ := sortBounded_inv h
  · rw [Slot.appCallInfo, hrole]
  · rw [Slot.appCallInfo, hrole]
    rfl

theorem sortGuarded_info {rules : SlotRules} (h : sortGuarded rules i item txn key = .ok slot) :
    slot.appCallInfo = item.appCallInfo := by
  obtain ⟨-, -, -, ⟨-, _, _, -, -, hrole⟩ | ⟨-, hrole⟩⟩ := sortGuarded_inv h
  · rw [Slot.appCallInfo, hrole]
  · rw [Slot.appCallInfo, hrole]
    rfl

end Slots

/-- The options of the guarded choreography keep the metadata of every slot. -/
theorem appCallInfoAt_slot {copy : Txn → Except SdkError Txn} {sort : SortSlot} {flow : String} {user : Client}
    {t : Trace signer} {items : List PreparedTransaction} {keys : List KeyInfo} {slots : List Slot} {i : ℕ}
    {slot : Slot} (h : SlotsOf copy sort user t items keys slots) (hsorts : Sorts flow sort)
    (hs : slots[i]? = some slot) :
    appCallInfoAt (slots.filterMap Slot.primary?) (sortTargets (slots.filterMap Slot.target?)) i =
      slot.appCallInfo := by
  have hperm : (sortTargets (slots.filterMap Slot.target?)).Perm (slots.filterMap Slot.target?) :=
    List.perm_insertionSort _ _
  unfold appCallInfoAt
  cases hrole : slot.role with
  | cosigned target maxFee =>
    have htarget : slot.target? = some target := by rw [Slot.target?, hrole]
    have hmem := hperm.mem_iff.mpr (List.mem_filterMap.mpr ⟨slot, List.mem_of_getElem? hs, htarget⟩)
    have hnodup := (hperm.map (·.targetIndex)).nodup_iff.mpr (h.targets_nodup hsorts)
    have hfind := find?_of_mem hnodup hmem
    rw [h.target_index hsorts hs htarget] at hfind
    rw [hfind, Slot.appCallInfo, hrole]
  | primary p =>
    have hp : slot.primary? = some p := by rw [Slot.primary?, hrole]
    have hnone : (sortTargets (slots.filterMap Slot.target?)).find? (·.targetIndex = (i : ℤ)) = none := by
      refine List.find?_eq_none.mpr fun target hmem hi => ?_
      have := h.target_at hsorts hs (hperm.mem_iff.mp hmem) (by simpa using hi)
      rw [Slot.target?, hrole] at this
      cases this
    have hnodup : (((slots.filterMap Slot.primary?).reverse).map (·.targetIndex)).Nodup := by
      rw [List.map_reverse, List.nodup_reverse]
      exact h.primaries_nodup hsorts
    have hfind := find?_of_mem hnodup
      (List.mem_reverse.mpr (List.mem_filterMap.mpr ⟨slot, List.mem_of_getElem? hs, hp⟩))
    rw [h.primary_index hsorts hs hp] at hfind
    rw [hnone, hfind, Slot.appCallInfo, hrole]
    rfl

/-! ### What the runs show -/

/-- The keys of the slots, as a run found them. -/
structure KeysOf (opts : PreparedGuardedGroupOptions) (t : Trace signer) (user : Client) (keys : List KeyInfo) :
    Prop where
  client : opts.userClient = some user
  length : keys.length = opts.transactions.length
  each : ∀ (i : ℕ) item key, opts.transactions[i]? = some item → keys[i]? = some key → KeyOf user t item key

theorem Planned.keysOf {copy : Txn → Except SdkError Txn} {sort : SortSlot}
    {check : List Slot → PlanGroupResponse → Except SdkError (List Txn)} {opts : PreparedGuardedGroupOptions}
    {t : Trace signer} {user : Client} {keys : List KeyInfo} {slots : List Slot} {plan : PlanGroupResponse}
    {planned : List Txn} (h : Planned copy sort check opts t user keys slots plan planned) :
    KeysOf opts t user keys where
  client := h.client
  length := h.sorted.keys_length
  each i item key hi hk :=
    let ⟨slot, hs⟩ := h.sorted.of_item hi
    (h.sorted.each i item key slot hi hk hs).1

theorem KeysOf.of_withKeys {d : Dialect} {opts : PreparedGuardedGroupOptions} {found : List (Option KeyInfo)}
    {t u : Trace signer} {user : Client} {keys : List KeyInfo}
    (hfound : Runs (collect (preparedFlowKey d opts.userClient) opts.transactions.zipIdx) t (.ok found))
    (h : KeysOf (withKeys d opts found) u user keys) : KeysOf opts (t ++ u) user keys := by
  have hclient := h.client
  rw [withKeys_userClient] at hclient
  refine ⟨hclient, h.length.trans (withKeys_length hfound), fun i item key hi hk => ?_⟩
  rw [hclient] at hfound
  obtain ⟨k, hi', hof⟩ := withKeys_item hfound hi
  exact hof u key (h.each i _ key hi' hk)

/-- The group holds a bounded-cosigner key. -/
def BoundedKeys (keys : List KeyInfo) : Prop := ∃ key ∈ keys, key.signingFlow = signingFlowBoundedCosigner1

/-- What has to hold of slot `i` for the request `req` to show its metadata.
Go loses that of a primary slot in the base request, TypeScript in every
request of a bounded group; Python loses an empty mapping, in a bounded group
everywhere and in a guarded group at the targets of the request. -/
def Language.Keeps (keys : List KeyInfo) (req : ComponentRequest) (i : ℕ) (key : KeyInfo)
    (info : Option AppCallInfo) : Language → Prop
  | go => (∃ x ∈ req.targets, x.kind = .boundedBase) → key.signingFlow ≠ signingFlowBoundedCosigner1 → info = none
  | python => BoundedKeys keys ∨ (i : ℤ) ∈ req.indices → info ≠ some ⟨none, none⟩
  | typescript => BoundedKeys keys → key.signingFlow ≠ signingFlowBoundedCosigner1 → info = none

/-- The request shows the slots as they were prepared exactly where the
language keeps them. -/
def ShowsKept (L : Language) (opts : PreparedGuardedGroupOptions) (keys : List KeyInfo) (req : ComponentRequest) :
    Prop :=
  Describes (opts.transactions.map (·.appCallInfo)) req ↔ ∀ (i : ℕ) item key,
    opts.transactions[i]? = some item → keys[i]? = some key → L.Keeps keys req i key item.appCallInfo

theorem nonEmptyInfo_eq_iff {info : Option AppCallInfo} : nonEmptyInfo info = info ↔ info ≠ some ⟨none, none⟩ := by
  unfold nonEmptyInfo
  by_cases h : info = some ⟨none, none⟩
  · simp [h]
  · simp [h]

theorem nonEmptyInfo_idem (info : Option AppCallInfo) : nonEmptyInfo (nonEmptyInfo info) = nonEmptyInfo info := by
  unfold nonEmptyInfo
  split <;> simp_all

/-- What the base request shows of a slot is what the slot was prepared with. -/
theorem entryInfo_eq_iff {L : Language} {keys : List KeyInfo} {req : ComponentRequest} {i : ℕ} {key : KeyInfo}
    {info : Option AppCallInfo} (hbase : ∃ x ∈ req.targets, x.kind = .boundedBase) (hkeys : BoundedKeys keys) :
    (if key.signingFlow = signingFlowBoundedCosigner1 then L.requestInfo info else L.foreignInfo info) = info ↔
      L.Keeps keys req i key info := by
  by_cases hflow : key.signingFlow = signingFlowBoundedCosigner1
  · rw [if_pos hflow]
    cases L with
    | go => simp [Language.requestInfo, Language.Keeps, hflow]
    | python => simp [Language.requestInfo, Language.Keeps, hkeys, nonEmptyInfo_eq_iff]
    | typescript => simp [Language.requestInfo, Language.Keeps, hflow]
  · rw [if_neg hflow]
    cases L with
    | go => simpa [Language.foreignInfo, Language.Keeps, hflow, hbase] using eq_comm
    | python => simp [Language.foreignInfo, Language.Keeps, hkeys, nonEmptyInfo_eq_iff]
    | typescript => simpa [Language.foreignInfo, Language.Keeps, hflow, hkeys] using eq_comm

/-- What a cosigner request of a bounded group shows of a slot is what the
slot was prepared with. -/
theorem slotInfo_eq_iff {env : Env} {L : Language} {keys : List KeyInfo} {req : ComponentRequest} {i : ℕ}
    {key : KeyInfo} {info : Option AppCallInfo} {slot : Slot} {indices : List ℤ}
    (hbase : ¬ ∃ x ∈ req.targets, x.kind = .boundedBase) (hkeys : BoundedKeys keys)
    (hentry : slot.request.appCallInfo =
      if key.signingFlow = signingFlowBoundedCosigner1 then L.requestInfo info else L.foreignInfo info)
    (hslot : slot.appCallInfo = info) :
    (if (i : ℤ) ∈ indices then (L.dialect env).targetInfo ((L.dialect env).slotInfo slot)
      else (L.dialect env).slotInfo slot) = info ↔ L.Keeps keys req i key info := by
  cases L with
  | go =>
    have hinfo : (Go.dialect env).slotInfo slot = info := hslot
    have htarget : ∀ x, (Go.dialect env).targetInfo x = x := fun _ => rfl
    simp [Language.dialect, Language.Keeps, hinfo, htarget, hbase]
  | python =>
    have hinfo : (Python.dialect env).slotInfo slot = nonEmptyInfo info := by
      rw [Language.requestInfo, Language.foreignInfo, ite_self] at hentry
      exact hentry
    have htarget : (Python.dialect env).targetInfo (nonEmptyInfo info) = nonEmptyInfo info :=
      nonEmptyInfo_idem info
    simp [Language.dialect, Language.Keeps, hinfo, htarget, hkeys, nonEmptyInfo_eq_iff]
  | typescript =>
    have hinfo : (TypeScript.dialect env).slotInfo slot =
        if key.signingFlow = signingFlowBoundedCosigner1 then info else none := hentry
    have htarget : ∀ x, (TypeScript.dialect env).targetInfo x = x := fun _ => rfl
    by_cases hflow : key.signingFlow = signingFlowBoundedCosigner1
    · simp [Language.dialect, Language.Keeps, hinfo, htarget, hflow]
    · simpa [Language.dialect, Language.Keeps, hinfo, htarget, hflow, hkeys] using eq_comm

/-- What a request of a guarded group shows of a slot is what the slot was
prepared with. -/
theorem targetInfo_eq_iff {env : Env} {L : Language} {keys : List KeyInfo} {req : ComponentRequest} {i : ℕ}
    {key : KeyInfo} {info : Option AppCallInfo} {indices : List ℤ}
    (hbase : ¬ ∃ x ∈ req.targets, x.kind = .boundedBase) (hkeys : ¬ BoundedKeys keys)
    (hindices : req.indices = indices) :
    (if (i : ℤ) ∈ indices then (L.dialect env).targetInfo info else info) = info ↔
      L.Keeps keys req i key info := by
  cases L with
  | go =>
    have htarget : ∀ x, (Go.dialect env).targetInfo x = x := fun _ => rfl
    simp [Language.dialect, Language.Keeps, htarget, hbase]
  | python =>
    have htarget : (Python.dialect env).targetInfo info = nonEmptyInfo info := rfl
    by_cases hi : (i : ℤ) ∈ indices
    · simp [Language.dialect, Language.Keeps, htarget, hkeys, hindices, hi, nonEmptyInfo_eq_iff]
    · simp [Language.Keeps, hkeys, hindices, hi]
  | typescript =>
    have htarget : ∀ x, (TypeScript.dialect env).targetInfo x = x := fun _ => rfl
    simp [Language.dialect, Language.Keeps, htarget, hkeys]

section Runs

variable {env : Env} {L : Language} {opts : PreparedGuardedGroupOptions} {t : Trace signer} {user : Client}
  {keys : List KeyInfo} {slots : List Slot} {plan : PlanGroupResponse} {planned : List Txn}

/-- A request that shows `shown i` at position `i`, slot by slot. -/
theorem showsKept_of {req : ComponentRequest} {shown : ℕ → Option AppCallInfo}
    (hlen : keys.length = opts.transactions.length)
    (hreq : Describes (opts.transactions.map (·.appCallInfo)) req ↔
      ∀ (i : ℕ) info, (opts.transactions.map (·.appCallInfo))[i]? = some info → shown i = info)
    (hkeeps : ∀ (i : ℕ) item key, opts.transactions[i]? = some item → keys[i]? = some key →
      (shown i = item.appCallInfo ↔ L.Keeps keys req i key item.appCallInfo)) : ShowsKept L opts keys req := by
  refine hreq.trans ?_
  constructor
  · intro h i item key hi hk
    exact (hkeeps i item key hi hk).mp (h i _ (by rw [List.getElem?_map, hi]; rfl))
  · intro h i info hinfo
    rw [List.getElem?_map, Option.map_eq_some_iff] at hinfo
    obtain ⟨item, hi, rfl⟩ := hinfo
    obtain ⟨hlt, -⟩ := List.getElem?_eq_some_iff.mp hi
    have hk := List.getElem?_eq_getElem (hlen ▸ hlt : i < keys.length)
    exact (hkeeps i item _ hi hk).mpr (h i item _ hi hk)

/-- A bounded group has a target, and so a bounded-cosigner key. -/
theorem Frozen.boundedKeys {d : Dialect} (h : BoundedFrozen d opts t user keys slots plan planned) :
    BoundedKeys keys := by
  obtain ⟨target, htarget⟩ := List.exists_mem_of_ne_nil _ h.targets
  obtain ⟨slot, hslot, ht⟩ := List.mem_filterMap.mp htarget
  obtain ⟨i, hs⟩ := List.mem_iff_getElem?.mp hslot
  obtain ⟨item, key, -, hk, -, _, _, -, -, hsort⟩ := h.sorted.of_slot hs
  refine ⟨key, List.mem_of_getElem? hk, ?_⟩
  by_contra hflow
  obtain ⟨p, hp, -⟩ := (sorts_sortBounded d.rules).primary hsort hflow
  unfold Slot.target? at ht
  unfold Slot.primary? at hp
  split at ht <;> simp_all

/-- A guarded group has none. -/
theorem Frozen.not_boundedKeys {d : Dialect} (h : GuardedFrozen d opts t user keys slots plan planned) :
    ¬ BoundedKeys keys := by
  rintro ⟨key, hkey, hflow⟩
  obtain ⟨i, hk⟩ := List.mem_iff_getElem?.mp hkey
  obtain ⟨hlt, -⟩ := List.getElem?_eq_some_iff.mp hk
  have hs := List.getElem?_eq_getElem (h.sorted.slots_length ▸ h.sorted.keys_length ▸ hlt : i < slots.length)
  obtain ⟨item, key', -, hk', -, _, _, -, -, hsort⟩ := h.sorted.of_slot hs
  cases hk.symm.trans hk'
  rcases (sortGuarded_inv hsort).2.2.2 with ⟨hflow', -⟩ | ⟨hflow' | hflow', -⟩
  · exact absurd (hflow.symm.trans hflow') (by decide)
  · exact absurd (hflow.symm.trans hflow') (by decide)
  · exact absurd (hflow.symm.trans hflow') (by decide)

/-- The base request of a bounded group. -/
theorem showsKept_base (h : BoundedFrozen (L.dialect env) opts t user keys slots plan planned) {id : String}
    (hvalid : (L.dialect env).calls.validateComponentRequest
      { baseComponentRequest plan.transactions slots with requestId := id } = .ok ()) :
    ShowsKept L opts keys { baseComponentRequest plan.transactions slots with requestId := id } := by
  have hcalls := (L.lawful_dialect env).calls
  have hbase : ∃ x ∈ (baseComponentRequest plan.transactions slots).targets, x.kind = .boundedBase := by
    obtain ⟨_, hok⟩ := hcalls.componentRequest hvalid
    obtain ⟨x, hx⟩ := List.exists_mem_of_ne_nil _ hok.targets_ne
    obtain ⟨p, -, hp⟩ := List.mem_filterMap.mp hx
    obtain ⟨_, -, rfl⟩ := Option.map_eq_some_iff.mp hp
    exact ⟨_, hx, rfl⟩
  have hslots : slots.length = (opts.transactions.map (·.appCallInfo)).length := by
    rw [List.length_map, h.sorted.slots_length]
  refine showsKept_of h.sorted.keys_length (describes_base hcalls hslots hvalid) fun i item key hi hk => ?_
  obtain ⟨slot, hs⟩ := h.sorted.of_item hi
  obtain ⟨-, _, txn, -, -, hsort⟩ := h.sorted.each i item key slot hi hk hs
  rw [hs, Option.bind_some, sortBounded_entryInfo L (h.unsigned item (List.mem_of_getElem? hi)) hsort]
  exact entryInfo_eq_iff hbase h.boundedKeys

/-- A cosigner request of a bounded group. -/
theorem showsKept_cosigner (h : BoundedFrozen (L.dialect env) opts t user keys slots plan planned) {id key : String}
    {indices : List ℤ} (hvalid : (L.dialect env).calls.validateComponentRequest
      { componentRequestForIndices (L.dialect env) (boundedFrame (L.dialect env) plan.transactions slots)
        .cosigner key indices with requestId := id } = .ok ()) :
    ShowsKept L opts keys { componentRequestForIndices (L.dialect env)
      (boundedFrame (L.dialect env) plan.transactions slots) .cosigner key indices with requestId := id } := by
  obtain ⟨hplen, hle⟩ := h.bounded_lengths (L.lawful_dialect env)
  have hcount : (opts.transactions.map (·.appCallInfo)).length ≤ (L.dialect env).originalCount
      plan.transactions.length (contiguousIndices slots.length plan.transactions.length).length := by
    rw [length_contiguousIndices, L.originalCount_slots env (hplen ▸ hle), List.length_map, h.sorted.slots_length]
  refine showsKept_of h.sorted.keys_length (describes_indices (L.lawful_dialect env).calls hcount hvalid)
    fun i item key' hi hk => ?_
  obtain ⟨slot, hs⟩ := h.sorted.of_item hi
  obtain ⟨-, _, txn, -, -, hsort⟩ := h.sorted.each i item key' slot hi hk hs
  have hframe : (boundedFrame (L.dialect env) plan.transactions slots).appCallInfo i =
      (L.dialect env).slotInfo slot := by
    simp only [boundedFrame, Int.toNat_natCast, hs, Option.bind_some]
  have hentry := sortBounded_entryInfo L (h.unsigned item (List.mem_of_getElem? hi)) hsort
  have hnotBase : ¬ ∃ x ∈ (componentRequestForIndices (L.dialect env)
      (boundedFrame (L.dialect env) plan.transactions slots) .cosigner key indices).targets,
        x.kind = .boundedBase := by
    rintro ⟨x, hx, hkind⟩
    rw [kind_componentRequestForIndices hx] at hkind
    cases hkind
  rw [shownAt, hframe]
  exact slotInfo_eq_iff hnotBase h.boundedKeys hentry (sortBounded_info hsort)

/-- A request of a guarded group. -/
theorem showsKept_guarded (h : GuardedFrozen (L.dialect env) opts t user keys slots plan planned)
    {dummies : List AssemblyPassthroughItem} {targets : List GuardedSignTarget} {kind : ComponentTargetKind}
    (hprelude : guardedPrelude (L.dialect env) (guardedOptionsOf (L.dialect env) opts user slots planned dummies) =
      .ok (user, targets)) (hkind : kind ≠ .boundedBase) {id key : String} {indices : List ℤ}
    (hvalid : (L.dialect env).calls.validateComponentRequest { componentRequestForIndices (L.dialect env)
      ((guardedOptionsOf (L.dialect env) opts user slots planned dummies).frame targets) kind key indices
        with requestId := id } = .ok ()) :
    ShowsKept L opts keys { componentRequestForIndices (L.dialect env)
      ((guardedOptionsOf (L.dialect env) opts user slots planned dummies).frame targets) kind key indices
        with requestId := id } := by
  have hcount : (opts.transactions.map (·.appCallInfo)).length ≤ (L.dialect env).originalCount
      (planned.map fun txn => hexEncode ((L.dialect env).codec.sdk.encodeTxn txn)).length
      (contiguousIndices slots.length planned.length).length := by
    rw [length_contiguousIndices, List.length_map, List.length_map,
      L.originalCount_slots env h.guarded_length, h.sorted.slots_length]
  refine showsKept_of h.sorted.keys_length (describes_indices (L.lawful_dialect env).calls hcount hvalid)
    fun i item key' hi hk => ?_
  obtain ⟨slot, hs⟩ := h.sorted.of_item hi
  obtain ⟨-, _, txn, -, -, hsort⟩ := h.sorted.each i item key' slot hi hk hs
  have hframe : ((guardedOptionsOf (L.dialect env) opts user slots planned dummies).frame targets).appCallInfo i =
      item.appCallInfo := by
    rw [(guardedPrelude_ok hprelude).2.1, ← sortGuarded_info hsort]
    exact appCallInfoAt_slot h.sorted (sorts_sortGuarded _) hs
  have hnotBase : ¬ ∃ x ∈ (componentRequestForIndices (L.dialect env)
      ((guardedOptionsOf (L.dialect env) opts user slots planned dummies).frame targets) kind key indices).targets,
        x.kind = .boundedBase := by
    rintro ⟨x, hx, hbase⟩
    exact hkind ((kind_componentRequestForIndices hx).symm.trans hbase)
  rw [shownAt, hframe]
  exact targetInfo_eq_iff hnotBase h.not_boundedKeys indices_componentRequestForIndices

theorem ShowsKept.of_withKeys {d : Dialect} {found : List (Option KeyInfo)} {req : ComponentRequest}
    (hfound : Runs (collect (preparedFlowKey d (some user)) opts.transactions.zipIdx) t (.ok found))
    (h : ShowsKept L (withKeys d opts found) keys req) : ShowsKept L opts keys req := by
  have hlen := withKeys_length hfound
  have hinfos : (withKeys d opts found).transactions.map (·.appCallInfo) =
      opts.transactions.map (·.appCallInfo) := by
    refine List.ext_getElem (by rw [List.length_map, List.length_map, hlen]) fun i h₁ h₂ => ?_
    rw [List.length_map] at h₁ h₂
    obtain ⟨k, hi, -⟩ := withKeys_item hfound (List.getElem?_eq_getElem h₂)
    obtain ⟨_, he⟩ := List.getElem?_eq_some_iff.mp hi
    rw [List.getElem_map, List.getElem_map, he]
  unfold ShowsKept at h ⊢
  rw [hinfos] at h
  refine h.trans ?_
  constructor
  · intro hall i item key hi hk
    obtain ⟨k, hi', -⟩ := withKeys_item hfound hi
    have hkeeps := hall i _ key hi' hk
    exact hkeeps
  · intro hall i item key hi hk
    obtain ⟨hlt, -⟩ := List.getElem?_eq_some_iff.mp hi
    have hold := List.getElem?_eq_getElem (hlen ▸ hlt : i < opts.transactions.length)
    obtain ⟨k, hi', -⟩ := withKeys_item hfound hold
    cases hi.symm.trans hi'
    have hkeeps := hall i _ key hold hk
    exact hkeeps

variable {client : Client} {req : ComponentRequest} {reply : Reply ComponentResponse}

theorem SentBounded.showsKept (h : SentBounded (L.dialect env) opts t ⟨.components client req, reply⟩) :
    ∃ user keys, KeysOf opts t user keys ∧ ShowsKept L opts keys req := by
  obtain ⟨user, keys, slots, plan, planned, hfrozen, hsent⟩ := h
  refine ⟨user, keys, hfrozen.keysOf, ?_⟩
  cases hsent with
  | base hvalid => exact showsKept_base hfrozen hvalid
  | cosigner hvalid => exact showsKept_cosigner hfrozen hvalid

theorem SentGuarded.showsKept (h : SentGuarded (L.dialect env) opts t ⟨.components client req, reply⟩) :
    ∃ user keys, KeysOf opts t user keys ∧ ShowsKept L opts keys req := by
  obtain ⟨user, keys, slots, plan, planned, dummies, targets, hfrozen, -, hprelude, hsent⟩ := h
  refine ⟨user, keys, hfrozen.keysOf, ?_⟩
  cases hsent with
  | components hkind hvalid => exact showsKept_guarded hfrozen hprelude hkind hvalid

end Runs

/-- The prepared group of a call that takes one. -/
def Entry.prepared? : Entry → Option PreparedGuardedGroupOptions
  | guarded _ => none
  | bounded opts => some opts
  | prepared opts => some opts

/-- **Which requests describe the group.** In every run that signs a prepared
group, a component request shows the app-call metadata of every slot as it
was prepared exactly if the language keeps that of each slot, by the keys the
run found. -/
theorem appCallInfo_kept (env : Env) (L : Language) (entry : Entry) (opts : PreparedGuardedGroupOptions)
    (hentry : entry.prepared? = some opts) (t : Trace signer) (r : Except SdkError GuardedSignResult)
    (h : Runs (entry.flow (L.dialect env)) t r) (client : Client) (req : ComponentRequest)
    (reply : Reply ComponentResponse) (he : (⟨.components client req, reply⟩ : Exchange) ∈ t) :
    ∃ user keys, KeysOf opts t user keys ∧ (Describes (opts.transactions.map (·.appCallInfo)) req ↔
      ∀ (i : ℕ) item key, opts.transactions[i]? = some item → keys[i]? = some key →
        L.Keeps keys req i key item.appCallInfo) := by
  have hl := L.lawful_dialect env
  cases entry with
  | guarded _ => cases hentry
  | bounded _ =>
    cases hentry
    exact ((bounded_sent hl h he).resolve_left not_key_or_plan).showsKept
  | prepared _ =>
    cases hentry
    obtain ⟨found, t₁, t₂, rfl, hfound, hsent⟩ := (prepared_sent hl h he).resolve_left not_key_or_plan
    have hkept : ∃ user keys, KeysOf (withKeys (L.dialect env) opts found) t₂ user keys ∧
        ShowsKept L (withKeys (L.dialect env) opts found) keys req :=
      hsent.elim SentBounded.showsKept SentGuarded.showsKept
    obtain ⟨user, keys, hkeys, hshows⟩ := hkept
    have hkeys' := hkeys.of_withKeys hfound
    rw [hkeys'.client] at hfound
    exact ⟨user, keys, hkeys', hshows.of_withKeys hfound⟩

/-! ### A payment and an application call -/

namespace Demo

/-- The group id of `groupedPayment` and `groupedAppCall`. -/
def pairGroup : Bytes :=
  [0x6a, 0x82, 0x69, 0x65, 0xb5, 0xae, 0xf2, 0x36, 0xbe, 0x2c, 0x4e, 0x87, 0x77, 0x4d, 0x21, 0xd2,
    0x1e, 0x16, 0x08, 0x2e, 0x87, 0x8d, 0xcc, 0xf2, 0x8d, 0xd5, 0x38, 0x39, 0x04, 0x73, 0x62, 0x4e]

def groupedPayment : Txn := { payment with group := pairGroup }

def appCaller : String := "AIBAEAQCAIBAEAQCAIBAEAQCAIBAEAQCAIBAEAQCAIBAEAQCAIBMXPWWNQ"

/-- A call of application 7; `rest` holds `apid`. -/
def groupedAppCall : Txn where
  type := .other "appl"
  sender := appCaller
  fee := 1000
  group := pairGroup
  rest := [0xa4, 0x61, 0x70, 0x69, 0x64, 0x07]

def groupedPaymentBytes : Bytes :=
  [0x84, 0xa3, 0x66, 0x65, 0x65, 0xcd, 0x03, 0xe8, 0xa3, 0x67, 0x72, 0x70, 0xc4, 0x20] ++ pairGroup ++
    [0xa3, 0x73, 0x6e, 0x64, 0xc4, 0x20] ++ List.replicate 32 1 ++
    [0xa4, 0x74, 0x79, 0x70, 0x65, 0xa3, 0x70, 0x61, 0x79]

def groupedAppCallBytes : Bytes :=
  [0x85, 0xa4, 0x61, 0x70, 0x69, 0x64, 0x07, 0xa3, 0x66, 0x65, 0x65, 0xcd, 0x03, 0xe8, 0xa3, 0x67, 0x72, 0x70,
    0xc4, 0x20] ++ pairGroup ++ [0xa3, 0x73, 0x6e, 0x64, 0xc4, 0x20] ++ List.replicate 32 2 ++
    [0xa4, 0x74, 0x79, 0x70, 0x65, 0xa4, 0x61, 0x70, 0x70, 0x6c]

/-- An environment that knows the two transactions and their group hash. -/
noncomputable def pairEnv : Env :=
  { env with
    encode := fun t => if t = groupedPayment then groupedPaymentBytes
      else if t = groupedAppCall then groupedAppCallBytes else encode t
    decodeTxn := fun b => if b = groupedPaymentBytes then .ok (some groupedPayment)
      else if b = groupedAppCallBytes then .ok (some groupedAppCall) else decodeTxn b
    groupHash := fun txns => if txns = [groupedPayment.clearGroup, groupedAppCall.clearGroup] then .ok pairGroup
      else .error "only one group is known" }

def pairHex : List String :=
  [hexEncode (txPrefix ++ groupedPaymentBytes), hexEncode (txPrefix ++ groupedAppCallBytes)]

/-- A planner that changes nothing, and parties that answer what they are asked. -/
def pairAnswers : (o : Op) → o.Ans
  | .plan .. => .http 200 "OK" "" none (some { transactions := pairHex })
  | o => answers o

def transferInfo : AppCallInfo := ⟨some "abi", some "transfer(address,uint64)void"⟩

/-- A bounded-cosigner payment, and an application call of an ordinary key. -/
def pairOptions : PreparedGuardedGroupOptions where
  userClient := some ⟨0⟩
  cosigner := { client := some ⟨1⟩, componentKey := "cosigner-key" }
  transactions :=
    [{ transaction := some groupedPayment, authAddress := payer, signerKey := some (keyOf signingFlowBoundedCosigner1) },
      { transaction := some groupedAppCall, authAddress := appCaller, signerKey := some { address := appCaller },
        appCallInfo := some transferInfo }]

/-- A component request that shows nothing at position 1. -/
def showsNothing (e : Exchange) : Bool :=
  match e.op with
  | .components _ req => req.described.contains (1, none)
  | _ => false

def isComponents (e : Exchange) : Bool :=
  match e.op with
  | .components .. => true
  | _ => false

noncomputable def pairFlow (L : Language) : Flow GuardedSignResult :=
  signPreparedBoundedCosignerGroup (L.dialect pairEnv) pairOptions

theorem runs_pairAnswers {α : Type} (p : Flow α) : Runs p (traceOf pairAnswers p) (exec pairAnswers p) :=
  runs_traceOf pairAnswers p

theorem pairFlow_eq (L : Language) : pairFlow L = (Entry.bounded pairOptions).flow (L.dialect pairEnv) := rfl

/-- The description of the application call got lost on the way. -/
theorem not_describes_pair {L : Language} (h : (traceOf pairAnswers (pairFlow L)).any showsNothing = true) :
    ¬ ∀ (opts : PreparedGuardedGroupOptions) (t : Trace signer) (r : Except SdkError GuardedSignResult)
      (client : Client) (req : ComponentRequest) (reply : Reply ComponentResponse),
      Runs (signPreparedBoundedCosignerGroup (L.dialect pairEnv) opts) t r →
        (⟨.components client req, reply⟩ : Exchange) ∈ t →
          Describes (opts.transactions.map (·.appCallInfo)) req := by
  intro hall
  obtain ⟨⟨op, reply⟩, he, hshows⟩ := List.any_eq_true.mp h
  cases op with
  | components client req =>
    have hdescribes := hall pairOptions _ _ client req reply (runs_pairAnswers (pairFlow L)) he
    have hnone : (((1 : ℕ) : ℤ), (none : Option AppCallInfo)) ∈ req.described := List.contains_iff_mem.mp hshows
    have hinfo := (hdescribes 1 (some transferInfo) rfl none).mp hnone
    cases hinfo
  | _ => cases hshows

/-- The base requests of Go and of TypeScript show nothing of the call. -/
theorem appCallInfo_dropped :
    (¬ ∀ (opts : PreparedGuardedGroupOptions) (t : Trace signer) (r : Except SdkError GuardedSignResult)
      (client : Client) (req : ComponentRequest) (reply : Reply ComponentResponse),
      Runs (signPreparedBoundedCosignerGroup (Language.go.dialect pairEnv) opts) t r →
        (⟨.components client req, reply⟩ : Exchange) ∈ t →
          Describes (opts.transactions.map (·.appCallInfo)) req) ∧
    ¬ ∀ (opts : PreparedGuardedGroupOptions) (t : Trace signer) (r : Except SdkError GuardedSignResult)
      (client : Client) (req : ComponentRequest) (reply : Reply ComponentResponse),
      Runs (signPreparedBoundedCosignerGroup (Language.typescript.dialect pairEnv) opts) t r →
        (⟨.components client req, reply⟩ : Exchange) ∈ t →
          Describes (opts.transactions.map (·.appCallInfo)) req := by
  constructor
  · exact not_describes_pair (by decide +kernel)
  · exact not_describes_pair (by decide +kernel)

/-- A base request of Python shows the call. -/
theorem appCallInfo_kept_pair : ∃ client req reply,
    (⟨.components client req, reply⟩ : Exchange) ∈ traceOf pairAnswers (pairFlow .python) ∧
      Describes (pairOptions.transactions.map (·.appCallInfo)) req := by
  have hany : (traceOf pairAnswers (pairFlow .python)).any isComponents = true := by decide +kernel
  -- the flow stays a name, which nothing here evaluates
  generalize hflow : pairFlow .python = flow at hany ⊢
  rw [pairFlow_eq] at hflow
  obtain ⟨⟨op, reply⟩, he, hop⟩ := List.any_eq_true.mp hany
  cases op with
  | components client req =>
    obtain ⟨user, keys, -, hkept⟩ :=
      appCallInfo_kept pairEnv .python (.bounded pairOptions) pairOptions rfl (traceOf pairAnswers flow)
        (exec pairAnswers flow) (by rw [hflow]; exact runs_pairAnswers flow) client req reply he
    refine ⟨client, req, reply, he, hkept.mpr fun i item key hi _ _ => ?_⟩
    have hmem : item.appCallInfo ∈ [none, some transferInfo] :=
      List.mem_map_of_mem (f := fun p : PreparedTransaction => p.appCallInfo) (List.mem_of_getElem? hi)
    intro hempty
    rw [hempty] at hmem
    simp [transferInfo] at hmem
  | _ => cases hop

end Demo

end AplaneSdk
