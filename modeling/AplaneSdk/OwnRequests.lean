/-
# A choreography never refuses its own requests

Every call validates its request before it sends it. `Dialect.unchecked` is an
SDK without these checks: it sends whatever it builds. Once a plan is accepted
everything such an SDK sends would have passed, so the checks never stop a
choreography after the user has approved. There is one exception: Go takes the
LogicSig resources of a bounded-cosigner key as they are, and declares them at
`/sign`, where they are refused when they are out of bounds.

Key definitions: `Dialect.unchecked`, `Passes`, `Declarable`.
Key theorems: `within_exchange`, `bounded_within`, `guarded_within`,
`ownRequests_pass`.
-/
import AplaneSdk.Builders

namespace AplaneSdk

open Checks Grouping Interaction Interaction.Prog

/-- An SDK that does not check the requests it builds after a plan. -/
def Dialect.unchecked (d : Dialect) : Dialect :=
  { d with calls :=
    { d.calls with
      validateComponentRequest := fun _ => .ok ()
      validateAssemblyRequest := fun _ => .ok ()
      validateGroupSignRequest := fun _ => .ok () } }

/-- The request of an exchange passes the checks of the SDK. -/
def Passes (calls : Calls) (e : Exchange) : Prop :=
  match e.op with
  | .components _ req => calls.validateComponentRequest req = .ok ()
  | .sign _ req => calls.validateGroupSignRequest req = .ok ()
  | .assemble _ req => calls.validateAssemblyRequest req = .ok ()
  | _ => True

/-! ### The checks of an SDK, on its own runs -/

section Passing

variable {d : Dialect} {client : Client}

theorem passes_requestComponents {req : ComponentRequest} :
    Emits (Passes d.calls) (requestComponents d.calls client req) :=
  emits_requestComponents (fun _ _ => trivial) fun _ _ hvalid => hvalid

theorem passes_signGroup {requests : List SignRequest} :
    Emits (Passes d.calls) (signGroup d.calls client requests) :=
  emits_exchange_valid (emits_newRequestId fun _ => trivial) fun _ _ _ _ hvalid => hvalid

theorem passes_requestAssemble {req : AssemblyRequest} :
    Emits (Passes d.calls) (requestAssemble d.calls client req) :=
  emits_exchange_valid (emits_fillRequestId fun _ => trivial) fun _ _ _ _ hvalid => mapErr_ok.mp hvalid

theorem passes_userPhase {frame : ComponentFrame} {targets : List GuardedSignTarget} :
    Emits (Passes d.calls) (requestUserComponentSignatures d client frame targets) :=
  emits_collect _ fun _ _ => passes_requestComponents

theorem passes_guardedPrimary {opts : GuardedSignOptions} {targets : List GuardedSignTarget} :
    Emits (Passes d.calls) (guardedPrimary d opts client targets) := by
  refine emits_bind (emits_lift _) fun passthrough => ?_
  split
  · exact emits_pure _
  · refine emits_bind (emits_bind (emits_lift _) fun requests => ?_) fun _ => emits_pure _
    exact emits_bind passes_signGroup fun _ => emits_bind (emits_lift _) fun _ => emits_pure _

theorem passes_boundedPrimary {group : List String} {slots : List Slot} :
    Emits (Passes d.calls) (requestBoundedPrimaryPassthrough d client group slots) := by
  unfold requestBoundedPrimaryPassthrough
  dsimp only
  split
  · exact emits_pure _
  · exact emits_bind (emits_mapError passes_signGroup) fun _ => emits_bind (emits_lift _) fun _ => emits_pure _

theorem passes_closing (hl : d.Lawful) {c : Closing} : Emits (Passes d.calls) (cosignAndAssemble d c) := by
  refine emits_bind ?_ fun responses => emits_bind (emits_lift _) fun material =>
    emits_bind (emits_mapError passes_requestAssemble) fun _ => emits_bind (emits_lift _) fun _ => emits_pure _
  refine emits_bind (emits_lift _) fun resolved => emits_bind (hl.emits_order fun _ => trivial) fun groups =>
    emits_collect _ fun group _ => ?_
  unfold requestCosignerGroup
  split
  · exact emits_done _
  · exact passes_requestComponents

end Passing

/-! ### Calls without the checks -/

section Calls

variable {env : Env} {L : Language} {client : Client}

/-- A call without its check does what the call does, when the check would
have passed. -/
theorem within_exchange {α Req Resp : Type} {fill : Flow α} {send : α → Req}
    {validate : Req → Except SdkError Unit} {op : Req → Op}
    {accept : (req : Req) → (op req).Ans → Except SdkError Resp}
    (h : ∀ t a, Runs fill t (.ok a) → validate (send a) = .ok ()) :
    Within (exchange fill send (fun _ => .ok ()) op accept) (exchange fill send validate op accept) := by
  refine within_bind (Within.refl _) fun t a hrun => ?_
  rw [h t a hrun]
  exact Within.refl _

theorem within_requestComponents (henv : env.KnowsAscii) {req : ComponentRequest} (hid : req.requestId = "")
    (h : ∀ id, ComponentRequestOk L.hasArgs { req with requestId := id }) :
    Within (requestComponents (L.dialect env).unchecked.calls client req)
      (requestComponents (L.dialect env).calls client req) := by
  refine within_exchange fun t id hrun => mapErr_ok.mpr (validateComponentRequest_iff.mpr ⟨?_, h id⟩)
  exact L.idOk_of_valid henv ((fillRequestId_ok hrun).valid (hid ▸ validRequestId_empty))

theorem within_signGroup (henv : env.KnowsAscii) {requests : List SignRequest} (h : EntriesOk requests) :
    Within (signGroup (L.dialect env).unchecked.calls client requests)
      (signGroup (L.dialect env).calls client requests) := by
  refine within_exchange fun t id hrun => ?_
  obtain ⟨bytes, -, rfl⟩ := newRequestId_ok.mp hrun
  have hid := L.idOk_of_valid henv (validRequestId_newSignRequestId bytes.property)
  exact (validateGroupSignRequest_iff hid (newSignRequestId_ne_empty _)).mpr h

theorem within_requestAssemble (henv : env.KnowsAscii) {req : AssemblyRequest}
    (hid : ValidRequestId req.requestId)
    (h : ∀ id, AssemblyRequestOk (L.IdOk env) L.hasArgs (req.sent id)) :
    Within (requestAssemble (L.dialect env).unchecked.calls client req)
      (requestAssemble (L.dialect env).calls client req) := by
  refine within_exchange fun t id hrun => mapErr_ok.mpr (validateAssemblyRequest_iff.mpr ⟨?_, h id⟩)
  exact L.idOk_of_valid henv ((fillRequestId_ok hrun).valid hid)

end Calls

/-! ### Phases without the checks -/

/-- The groups of a round are not empty, and name what is in the list. -/
theorem groups_of_list {α κ : Type} [DecidableEq κ] {key : α → κ} {index : α → ℤ} {xs : List α}
    (hn : (xs.map index).Nodup) {p : κ × List ℤ}
    (hp : p ∈ (groupBy key xs).map fun p => (p.1, sortIndices (p.2.map index))) :
    p.2 ≠ [] ∧ p.2.Nodup ∧ (∀ i ∈ p.2, i ∈ xs.map index) ∧ ∃ x ∈ xs, key x = p.1 := by
  obtain ⟨⟨k, ys⟩, hmem, rfl⟩ := List.mem_map.mp hp
  obtain ⟨hne, rfl⟩ := mem_groupBy.mp hmem
  have hsub := (List.filter_sublist (p := fun x => key x = k) (l := xs)).map index
  have hperm := sortIndices_perm ((xs.filter fun x => key x = k).map index)
  refine ⟨fun hnil => ?_, hperm.nodup_iff.mpr (hn.sublist hsub), fun i hi => ?_, ?_⟩
  · dsimp only at hnil
    rw [hnil] at hperm
    exact hne (List.map_eq_nil_iff.mp hperm.nil_eq.symm)
  · exact hsub.subset (hperm.mem_iff.mp hi)
  · obtain ⟨x, hx⟩ := List.exists_mem_of_ne_nil _ hne
    obtain ⟨hx, hkey⟩ := List.mem_filter.mp hx
    exact ⟨x, hx, of_decide_eq_true hkey⟩

theorem Fits.unchecked {d : Dialect} {frame : ComponentFrame} {n : ℕ} (h : Fits d frame n) :
    Fits d.unchecked frame n :=
  ⟨h.bytes, h.le, h.dummies, h.count⟩

section Phases

variable {env : Env} {L : Language} {user : Client} {frame : ComponentFrame} {n : ℕ}
  {targets : List GuardedSignTarget}

theorem within_userPhase (henv : env.KnowsAscii) (hfits : Fits (L.dialect env) frame n)
    (hn : (targets.map (·.targetIndex)).Nodup)
    (hrange : ∀ i ∈ targets.map (·.targetIndex), 0 ≤ i ∧ i < (n : ℤ))
    (haccount : ∀ target ∈ targets, target.guardedAccount ≠ "") :
    Within (requestUserComponentSignatures (L.dialect env).unchecked user frame targets)
      (requestUserComponentSignatures (L.dialect env) user frame targets) := by
  refine within_collect _ fun p hp => within_requestComponents henv rfl fun id => ?_
  obtain ⟨hne, hnodup, hnamed, target, htarget, hkey⟩ := groups_of_list hn ((List.mem_insertionSort _).mp hp)
  refine componentRequestOk_indices hfits.unchecked hne hnodup (fun i hi => hrange i (hnamed i hi)) ?_
    L.hasArgs_none
  exact Or.inl ⟨rfl, hkey ▸ haccount target htarget⟩

theorem within_cosignerPhase (henv : env.KnowsAscii) {cosigner : CosignerOptions}
    (hfits : Fits (L.dialect env) frame n) (hn : (targets.map (·.targetIndex)).Nodup)
    (hrange : ∀ i ∈ targets.map (·.targetIndex), 0 ≤ i ∧ i < (n : ℤ)) :
    Within (requestCosignerComponentSignatures (L.dialect env).unchecked cosigner frame targets)
      (requestCosignerComponentSignatures (L.dialect env) cosigner frame targets) := by
  refine within_lift_bind fun resolved hresolved => within_bind (Within.refl _) fun t groups horder => ?_
  have hperm := (L.lawful_dialect env).order horder
  have hindices := (resolveAll_ok hresolved).1
  refine within_collect _ fun g hg => ?_
  obtain ⟨hne, hnodup, hnamed, -⟩ := groups_of_list (hindices ▸ hn) (hperm.mem_iff.mp hg)
  unfold requestCosignerGroup
  split
  · exact Within.refl _
  · refine within_requestComponents henv rfl fun id => ?_
    refine componentRequestOk_indices hfits.unchecked hne hnodup (fun i hi => hrange i ?_) (Or.inr rfl)
      L.hasArgs_none
    exact hindices ▸ hnamed i hi

theorem within_closing (henv : env.KnowsAscii) {c : Closing} (hfits : Fits (L.dialect env) c.frame n)
    (hn : (c.targets.map (·.targetIndex)).Nodup)
    (hrange : ∀ i ∈ c.targets.map (·.targetIndex), 0 ≤ i ∧ i < (n : ℤ)) (hid : ValidRequestId c.assemblyRequestId)
    (hrequest : ∀ t responses material,
      Runs (requestCosignerComponentSignatures (L.dialect env) c.cosigner c.frame c.targets) t (.ok responses) →
      c.material responses = .ok material →
        ∀ id, AssemblyRequestOk (L.IdOk env) L.hasArgs ((c.request material).sent id)) :
    Within (cosignAndAssemble (L.dialect env).unchecked c) (cosignAndAssemble (L.dialect env) c) := by
  refine within_bind (within_cosignerPhase henv hfits hn hrange) fun t responses hrun =>
    within_lift_bind fun material hmaterial => within_bind ?_ fun _ _ _ => Within.refl _
  exact within_mapError (within_requestAssemble henv hid (hrequest t responses material hrun hmaterial))

end Phases

/-! ### The assembly request -/

/-- The items of the primary signer. -/
theorem PrimarySide.items {calls : Calls} {user : Client} {indices : List ℤ} {t : Trace signer}
    {items : List AssemblyPassthroughItem} (h : PrimarySide calls user indices t items) :
    (items.map (·.targetIndex)).Perm indices ∧ ∀ item ∈ items, item.signedTxnHex ≠ "" := by
  by_cases hne : indices = []
  · rw [h.unasked hne, hne]
    simp
  · obtain ⟨req, reply, resp, -, -, -, hsigned, rfl⟩ := h.asked hne
    constructor
    · rw [List.map_map]
      exact (List.map_id _).symm ▸ sortIndices_perm indices
    · intro item hitem
      obtain ⟨i, hi, rfl⟩ := List.mem_map.mp hitem
      exact hsigned i ((sortIndices_perm indices).mem_iff.mp hi)

/-- A LogicSig signature has bytes. -/
def AlgoSdk.SignsBytes (sdk : AlgoSdk) : Prop :=
  ∀ program txn bytes, sdk.signLogicSig program txn = .ok bytes → bytes ≠ []

section Assembly

variable {env : Env} {L : Language} {n : ℕ} {primaries : List ℤ} {items dummies : List AssemblyPassthroughItem}
  {targets : List GuardedSignTarget} {out : List AssemblyTarget} {group : List String}

open scoped List in
/-- The request of a closing with targets for the cosigned positions, and
items for the primary positions and the dummies. -/
theorem assemblyRequestOk_of_parts {r : AssemblyRequest} (id : String) (hbytes : GroupBytesOk r.groupBytesHex)
    (hle : n ≤ r.groupBytesHex.length)
    (hperm : (targets.map (·.targetIndex) ++ primaries).Perm (originals n))
    (hindices : r.targets.map (·.targetIndex) = targets.map (·.targetIndex))
    (htargets : ∀ T ∈ r.targets, T.Ok (L.IdOk env) L.hasArgs)
    (hprimary : (items.map (·.targetIndex)).Perm primaries ∧ ∀ item ∈ items, item.signedTxnHex ≠ "")
    (hdummies : dummies.map (·.targetIndex) = contiguousIndices n r.groupBytesHex.length ∧
      ∀ item ∈ dummies, item.signedTxnHex ≠ "")
    (hitems : r.passthrough.Perm (items ++ dummies)) :
    AssemblyRequestOk (L.IdOk env) L.hasArgs (r.sent id) := by
  have hsent : (r.sent id).indices = r.indices := by
    unfold AssemblyRequest.indices AssemblyRequest.sent
    dsimp only
    rw [List.map_map]
    rfl
  refine assemblyRequestOk_of_perm hbytes ?_ htargets fun p hp => ?_
  · calc (r.sent id).indices
        = targets.map (·.targetIndex) ++ r.passthrough.map (·.targetIndex) := by
          rw [hsent, AssemblyRequest.indices, hindices]
      _ ~ targets.map (·.targetIndex) ++ (primaries ++ contiguousIndices n r.groupBytesHex.length) := by
          refine List.Perm.append_left _ ((hitems.map _).trans ?_)
          rw [List.map_append, hdummies.1]
          exact hprimary.1.append_right _
      _ ~ originals n ++ contiguousIndices n r.groupBytesHex.length := by
          rw [← List.append_assoc]
          exact hperm.append_right _
      _ ~ originals r.groupBytesHex.length := by
          rw [originals_append hle]
  · obtain ⟨item, hitem, rfl⟩ := List.mem_map.mp hp
    rcases List.mem_append.mp (hitems.mem_iff.mp hitem) with h | h
    · exact hprimary.2 item h
    · exact hdummies.2 item h

/-- The signed dummies of a plan. -/
theorem dummies_signed {planned : List Txn} (hsdk : env.toAlgoSdk.SignsBytes) (hle : n ≤ planned.length)
    (h : signGuardedDummies (L.dialect env).codec (L.dialect env).addressFailure (L.dialect env).signFailure
      (planned.drop n) n = .ok dummies) :
    dummies.map (·.targetIndex) = contiguousIndices n planned.length ∧
      ∀ item ∈ dummies, item.signedTxnHex ≠ "" := by
  obtain ⟨hindices, hsigned⟩ := signGuardedDummies_ok h
  refine ⟨?_, fun item hitem => ?_⟩
  · rw [hindices, List.length_drop, Nat.add_sub_cancel' hle]
  · obtain ⟨-, txn, bytes, hbytes, hhex⟩ := hsigned item hitem
    rw [L.dialect_sdk env] at hbytes
    rw [hhex, ne_eq, hexEncode_eq_empty]
    exact hsdk _ _ _ hbytes

variable {calls : Calls} {t t' : Trace signer} {responses cosigned : List ComponentResponse}
  {asks asks' : List Asking} {belongs belongs' : GuardedSignTarget → Asking → ComponentTarget → Prop}

theorem guardedTargets_ok
    (huser : Side (L.dialect env).calls .user belongs targets t responses asks)
    (hcosigner : Side (L.dialect env).calls .cosigner belongs' targets t' cosigned asks')
    (haccount : ∀ target ∈ targets, target.guardedAccount ≠ "")
    (h : mapEach (fun _ => guardedAssemblyTarget responses cosigned) 0 targets = .ok out) :
    out.map (·.targetIndex) = targets.map (·.targetIndex) ∧ ∀ T ∈ out, T.Ok (L.IdOk env) L.hasArgs := by
  constructor
  · exact (mapEach_index (P := fun _ => True)
      (fun _ _ hT => ⟨(guardedAssemblyTarget_ok (d := L.dialect env) hT).1, trivial⟩) h).1
  · intro T hT
    obtain ⟨target, htarget, hmade⟩ := mapEach_mem h hT
    obtain ⟨-, hfrom, hfrom'⟩ := guardedAssemblyTarget_ok (d := L.dialect env) hmade
    obtain ⟨hkind, hauth⟩ := guardedAssemblyTarget_fields hmade
    obtain ⟨c, id, hmaterial, hc, hw, hid⟩ := huser.component rfl hfrom
    obtain ⟨c', id', hmaterial', hc', hw', hid'⟩ := hcosigner.component rfl hfrom'
    exact assemblyTarget_ok_guarded hkind (hauth ▸ haccount target htarget) hmaterial hmaterial' hc hc' hw hw'
      hid hid' L.hasArgs_none

theorem boundedTargets_ok {base : ComponentResponse}
    (huser : Side (L.dialect env).calls .boundedBase belongs targets t [base] asks)
    (hcosigner : Side (L.dialect env).calls .cosigner belongs' targets t' cosigned asks')
    (haccount : ∀ target ∈ targets, target.guardedAccount ≠ "")
    (h : mapEach (fun _ => boundedAssemblyTarget (L.dialect env) base cosigned) 0 targets = .ok out) :
    out.map (·.targetIndex) = targets.map (·.targetIndex) ∧ ∀ T ∈ out, T.Ok (L.IdOk env) L.hasArgs := by
  constructor
  · exact (mapEach_index (P := fun _ => True)
      (fun _ _ hT => ⟨(boundedAssemblyTarget_ok hT).1, trivial⟩) h).1
  · intro T hT
    obtain ⟨target, htarget, hmade⟩ := mapEach_mem h hT
    obtain ⟨-, hfrom, hfrom'⟩ := boundedAssemblyTarget_ok hmade
    obtain ⟨hkind, hauth, hargs⟩ := boundedAssemblyTarget_fields hmade
    obtain ⟨c, id, hmaterial, hc, hw, hid⟩ := huser.component rfl hfrom
    obtain ⟨c', id', hmaterial', hc', hw', hid'⟩ := hcosigner.component rfl hfrom'
    exact assemblyTarget_ok_bounded hkind (hauth ▸ haccount target htarget) hargs hmaterial hmaterial' hc hc'
      hw hw' hid hid'

end Assembly

/-! ### The choreographies without the checks -/

section Flows

variable {env : Env} {L : Language} {opts : PreparedGuardedGroupOptions} {t : Trace signer} {user : Client}
  {keys : List KeyInfo} {slots : List Slot} {plan : PlanGroupResponse} {planned : List Txn}

theorem validatePlan_entries {requests : List SignRequest}
    (h : (L.dialect env).calls.validatePlan requests = .ok ()) : SignEntriesOk requests := by
  refine entriesOk_iff.mp ?_
  cases L with
  | go => exact validateGroupSignRequest_entries (L := .go) (mapErr_ok.mp h)
  | python => exact (validateSignEntries_ok fun _ => validateLsigResources_ok).mp h
  | typescript => exact (validateSignEntries_ok fun _ => validateLsigResources_ok).mp h

/-- What the slots of a bounded plan are sent with. -/
theorem boundedSlots_ok (h : BoundedFrozen (L.dialect env) opts t user keys slots plan planned) :
    (∀ slot ∈ slots, ∀ target, slot.target? = some target →
        slot.request.authAddress ≠ "" ∧ target.guardedAccount ≠ "") ∧
      ∀ slot ∈ slots, ∀ p, slot.primary? = some p → EntryOk slot.request .foreign ∧ p.authAddress ≠ "" := by
  have hentries := validatePlan_entries h.valid
  constructor
  · intro slot hslot target htarget
    obtain ⟨i, hi⟩ := List.mem_iff_getElem?.mp hslot
    obtain ⟨item, key, hitem, -, -, prepared, txn, -, -, hsort⟩ := h.sorted.of_slot hi
    obtain ⟨-, _, -, ⟨-, haddress, hrequest, _, _, -, -, hrole⟩ | ⟨-, -, hrole⟩⟩ := sortBounded_inv hsort
    · rw [Slot.target?, hrole] at htarget
      cases htarget
      refine ⟨?_, haddress⟩
      rw [(signRequest_info L (h.unsigned item (List.mem_of_getElem? hitem)) haddress hrequest).1]
      exact haddress
    · rw [Slot.target?, hrole] at htarget
      cases htarget
  · intro slot hslot p hp
    obtain ⟨i, hi⟩ := List.mem_iff_getElem?.mp hslot
    obtain ⟨item, key, hitem, -, -, prepared, txn, -, -, hsort⟩ := h.sorted.of_slot hi
    obtain ⟨-, _, -, ⟨-, -, -, _, _, -, -, hrole⟩ | ⟨-, hforeign, hrole⟩⟩ := sortBounded_inv hsort
    · rw [Slot.primary?, hrole] at hp
      cases hp
    · rw [Slot.primary?, hrole] at hp
      cases hp
      obtain ⟨haddress, _, scheme, -, hrequest⟩ := foreignRequest_ok L hforeign
      have hselects : slot.request.Selects .foreign := by
        rw [hrequest]
        exact ⟨rfl, hexEncode_encodeTxn_ne _ _, rfl⟩
      have hmem := List.mem_map_of_mem (f := (·.request)) hslot
      exact ⟨(entryOk_iff hselects).mpr ⟨hentries.scheme _ hmem, hentries.resources _ hmem⟩, haddress⟩

/-- In Go, the resources the bounded-cosigner keys of a run select are within
bounds, where the group has a slot of another key besides. -/
def Declarable (L : Language) (opts : PreparedGuardedGroupOptions) (t : Trace signer) : Prop :=
  L = .go → ∀ user, opts.userClient = some user →
    (∃ item ∈ opts.transactions, ∃ key, KeyOf user t item key ∧ key.signingFlow ≠ signingFlowBoundedCosigner1) →
      ∀ item ∈ opts.transactions, ∀ key txn x, KeyOf user t item key → item.transaction = some txn →
        key.signingFlow = signingFlowBoundedCosigner1 → Selects key txn (some x) → x.inBounds

/-- The resources of the targets, where they are declared at `/sign`. Python
and TypeScript ask for the bounds themselves. -/
theorem boundedResources_ok (h : BoundedFrozen (L.dialect env) opts t user keys slots plan planned)
    {t' : Trace signer} (ht : t ⊆ t') (hd : Declarable L opts t') (hprimary : slots.filterMap Slot.primary? ≠ []) :
    ∀ target ∈ slots.filterMap Slot.target?, ∀ x, target.logicSigResources = some x → x.inBounds := by
  have hother : ∃ item ∈ opts.transactions, ∃ key, KeyOf user t' item key ∧
      key.signingFlow ≠ signingFlowBoundedCosigner1 := by
    obtain ⟨p, hp⟩ := List.exists_mem_of_ne_nil _ hprimary
    obtain ⟨slot, hslot, hp⟩ := List.mem_filterMap.mp hp
    obtain ⟨i, hi⟩ := List.mem_iff_getElem?.mp hslot
    obtain ⟨item, key, hitem, -, hkey, prepared, txn, -, -, hsort⟩ := h.sorted.of_slot hi
    refine ⟨item, List.mem_of_getElem? hitem, key, hkey.mono ht, fun hflow => ?_⟩
    obtain ⟨target, htarget, -⟩ := (sorts_sortBounded _).target hsort hflow
    unfold Slot.target? at htarget
    unfold Slot.primary? at hp
    split at htarget <;> simp_all
  intro target htarget x hx
  obtain ⟨slot, hslot, hslotTarget⟩ := List.mem_filterMap.mp htarget
  obtain ⟨i, hi⟩ := List.mem_iff_getElem?.mp hslot
  obtain ⟨item, key, hitem, -, hkey, prepared, txn, hprepared, hcopy, hsort⟩ := h.sorted.of_slot hi
  cases hcopy
  obtain ⟨-, resources, hselected, ⟨hflow, -, -, required, _, hrequired, -, hrole⟩ | ⟨-, -, hrole⟩⟩ :=
    sortBounded_inv hsort
  · rw [Slot.target?, hrole] at hslotTarget
    cases hslotTarget
    cases hx
    cases L with
    | go =>
      rw [requireResources_ok (L := .go) hrequired, selectedPreparedResources_ok] at hselected
      exact hd rfl user h.client hother item (List.mem_of_getElem? hitem) key prepared x (hkey.mono ht) hprepared
        hflow hselected
    | python => exact (requireLsigResources_ok.mp hrequired).2
    | typescript => exact (requireLsigResources_ok.mp hrequired).2
  · rw [Slot.target?, hrole] at hslotTarget
    cases hslotTarget

theorem within_boundedPrimary (henv : env.KnowsAscii) {group : List String}
    (h : slots.filterMap Slot.primary? ≠ [] →
      EntriesOk (group.zipIdx.map fun p => boundedEntry (L.dialect env) slots p.2 p.1)) :
    Within (requestBoundedPrimaryPassthrough (L.dialect env).unchecked user group slots)
      (requestBoundedPrimaryPassthrough (L.dialect env) user group slots) := by
  unfold requestBoundedPrimaryPassthrough
  dsimp only
  split
  · exact Within.refl _
  · exact within_bind (within_mapError (within_signGroup henv (h ‹_›))) fun _ _ _ => Within.refl _

/-- A bounded run without the checks is a run with them. -/
theorem bounded_within (henv : env.KnowsAscii) (hsdk : env.toAlgoSdk.SignsBytes)
    (hid : ValidRequestId opts.assemblyRequestId) (hd : Declarable L opts t) {r : Except SdkError GuardedSignResult}
    (h : Runs (signPreparedBoundedCosignerGroup (L.dialect env).unchecked opts) t r) :
    Runs (signPreparedBoundedCosignerGroup (L.dialect env) opts) t r := by
  have hl := L.lawful_dialect env
  rcases runs_bind.mp h with ⟨e, hplan, hr⟩ | ⟨⟨user, slots, group, planned⟩, t₁, t₂, rfl, hplan, hrest⟩
  · exact runs_bind.mpr (Or.inl ⟨e, hplan, hr⟩)
  refine runs_bind.mpr (Or.inr ⟨(user, slots, group, planned), t₁, t₂, rfl, hplan, ?_⟩)
  obtain ⟨keys, plan, rfl, hfrozen⟩ := planBounded_frozen (d := L.dialect env) hl hplan
  have hsorts := sorts_sortBounded (L.dialect env).rules
  have hbytes := groupBytesOk_decoded (checkBoundedPlan_ok hfrozen.checked).1
  obtain ⟨hlen, hle⟩ := hfrozen.bounded_lengths hl
  rw [← hlen] at hle
  have hfits : Fits (L.dialect env) (boundedFrame (L.dialect env) plan.transactions slots) slots.length :=
    ⟨hbytes, hle, rfl, L.originalCount_slots env hle⟩
  obtain ⟨htargets, hprimaries⟩ := boundedSlots_ok hfrozen
  have hperm := hfrozen.sorted.perm_originals hsorts
  have haccount : ∀ target ∈ slots.filterMap Slot.target?, target.guardedAccount ≠ "" := by
    intro target hmem
    obtain ⟨slot, hslot, htarget⟩ := List.mem_filterMap.mp hmem
    exact (htargets slot hslot target htarget).2
  have haddress : ∀ p ∈ slots.filterMap Slot.primary?, p.authAddress ≠ "" := by
    intro p hmem
    obtain ⟨slot, hslot, hp⟩ := List.mem_filterMap.mp hmem
    exact (hprimaries slot hslot p hp).2
  have hrange : ∀ i ∈ (slots.filterMap Slot.target?).map (·.targetIndex), 0 ≤ i ∧ i < (slots.length : ℤ) :=
    fun i hi => mem_originals.mp (hperm.mem_iff.mp (List.mem_append_left _ hi))
  have hnodup := hfrozen.sorted.targets_nodup hsorts
  have hresources := boundedResources_ok hfrozen (List.subset_append_left ..) hd
  have hbase : ∀ id, ComponentRequestOk L.hasArgs
      { baseComponentRequest plan.transactions slots with requestId := id } := by
    intro id
    refine componentRequestOk_base hbytes hle hfrozen.targets (fun slot hslot hsome => ?_) fun slot hslot hsome => ?_
    · obtain ⟨target, htarget⟩ := Option.isSome_iff_exists.mp hsome
      exact (htargets slot hslot target htarget).1
    · obtain ⟨p, hp⟩ := Option.isSome_iff_exists.mp hsome
      exact (hprimaries slot hslot p hp).1
  refine within_bind (within_mapError (within_requestComponents henv rfl hbase)) (fun tb base hbaseRun =>
    within_lift_bind fun _ _ => within_bind (within_boundedPrimary henv fun hne =>
      entriesOk_bounded hbytes hle hne haddress (hresources hne)) fun tp out hprimary =>
        within_bind ?_ fun _ _ _ => Within.refl _) t₂ r hrest
  obtain ⟨asks, hside⟩ := baseSide hl (fun i slot target hs ht => hfrozen.sorted.target_index hsorts hs ht)
    (runs_mapError_ok.mp hbaseRun)
  refine within_closing henv hfits hnodup hrange hid fun tc responses material hcosigners hmaterial id => ?_
  obtain ⟨asks', hcosigned⟩ := cosignerSide hl hnodup hcosigners
  obtain ⟨dummies, hdummies, hmaterial⟩ := bind_eq_ok.mp hmaterial
  obtain ⟨assemblyTargets, hmade, hout⟩ := bind_eq_ok.mp hmaterial
  cases hout
  obtain ⟨hindices, hok⟩ := boundedTargets_ok hside hcosigned haccount hmade
  refine assemblyRequestOk_of_parts id hbytes hle hperm hindices hok (boundedPrimary_ok hprimary).items ?_
    (List.Perm.refl _)
  obtain ⟨hpositions, hsigned⟩ := dummies_signed hsdk (hlen ▸ hle) hdummies
  exact ⟨hlen ▸ hpositions, hsigned⟩

/-- The targets of a guarded group have passed the checks of their fields. -/
theorem guardedPrelude_targets {opts : GuardedSignOptions} {targets : List GuardedSignTarget}
    (h : guardedPrelude (L.dialect env) opts = .ok (user, targets)) :
    ∀ target ∈ targets, target.guardedAccount ≠ "" ∧
      ∀ x, target.logicSigResources = some x → x.inBounds := by
  intro target htarget
  simp only [guardedPrelude, bind_eq_ok, pure_eq_ok, Prod.mk.injEq] at h
  obtain ⟨_, -, _, -, claimed, hclaim, -, rfl⟩ := h
  obtain ⟨_, _, hcheck⟩ := claimAll_each hclaim htarget
  simp only [checkGuardedTarget, seq_eq_ok, failIf_ok] at hcheck
  obtain ⟨-, -, haccount, hresources⟩ := hcheck
  obtain ⟨usage, husage, hbounds⟩ := Go.checkTargetResources_ok.mp (checkTargetResources_go hresources)
  refine ⟨haccount, fun x hx => ?_⟩
  rw [husage] at hx
  exact Option.some.inj hx ▸ hbounds

theorem within_guardedPrimary (henv : env.KnowsAscii) {opts : GuardedSignOptions} {targets : List GuardedSignTarget}
    (hbytes : GroupBytesOk opts.groupBytesHex)
    (hresources : ∀ target ∈ targets, ∀ x, target.logicSigResources = some x → x.inBounds) :
    Within (guardedPrimary (L.dialect env).unchecked opts user targets)
      (guardedPrimary (L.dialect env) opts user targets) := by
  refine within_lift_bind fun passthrough _ => ?_
  split
  · exact Within.refl _
  · rename_i hne
    refine within_bind (within_lift_bind fun requests hrequests => ?_) fun _ _ _ => Within.refl _
    exact within_bind (within_signGroup henv (entriesOk_guarded hrequests hbytes hne hresources))
      fun _ _ _ => Within.refl _

/-- A guarded run from prepared slots without the checks is a run with them. -/
theorem guarded_within (henv : env.KnowsAscii) (hsdk : env.toAlgoSdk.SignsBytes)
    (hid : ValidRequestId opts.assemblyRequestId) :
    Within (buildPreparedGuardedSignOptions (L.dialect env).unchecked opts >>=
        signGuardedGroup (L.dialect env).unchecked)
      (buildPreparedGuardedSignOptions (L.dialect env) opts >>= signGuardedGroup (L.dialect env)) := by
  have hl := L.lawful_dialect env
  refine within_bind (Within.refl (buildPreparedGuardedSignOptions (L.dialect env) opts))
    fun t signOpts hbuild => ?_
  obtain ⟨user, keys, slots, plan, planned, dummies, hfrozen, hdummies, rfl⟩ := buildGuarded_frozen hl hbuild
  have hsorts := sorts_sortGuarded (L.dialect env).rules
  have hbytes := groupBytesOk_encoded (checkGuardedPlan_ok hfrozen.checked).1
  have hle := hfrozen.guarded_length
  have hlen : (planned.map fun txn => hexEncode ((L.dialect env).codec.sdk.encodeTxn txn)).length =
      planned.length := List.length_map _
  refine within_lift_bind fun out hprelude => ?_
  obtain ⟨user', targets⟩ := out
  have hprelude : guardedPrelude (L.dialect env) (guardedOptionsOf (L.dialect env) opts user slots planned dummies) =
      .ok (user', targets) := hprelude
  obtain ⟨-, hsorted, hnodup⟩ := guardedPrelude_ok hprelude
  have hchecked := guardedPrelude_targets hprelude
  have htargets : targets.Perm (slots.filterMap Slot.target?) := hsorted ▸ List.perm_insertionSort _ _
  have hperm := ((htargets.map (·.targetIndex)).append_right _).trans (hfrozen.sorted.perm_originals hsorts)
  have hrange : ∀ i ∈ targets.map (·.targetIndex), 0 ≤ i ∧ i < (slots.length : ℤ) :=
    fun i hi => mem_originals.mp (hperm.mem_iff.mp (List.mem_append_left _ hi))
  have hfits : Fits (L.dialect env) ((guardedOptionsOf (L.dialect env) opts user slots planned dummies).frame
      targets) slots.length := by
    refine ⟨hbytes, hlen.symm ▸ hle, ?_, ?_⟩
    · exact congrArg (contiguousIndices slots.length) hlen.symm
    · exact L.originalCount_slots env (hlen.symm ▸ hle)
  refine within_bind (within_userPhase henv hfits hnodup hrange fun target ht => (hchecked target ht).1)
    fun tu responses huser => within_bind (within_guardedPrimary henv hbytes fun target ht => (hchecked target ht).2)
      fun tp out hprimary => within_bind ?_ fun _ _ _ => Within.refl _
  obtain ⟨asks, hside⟩ := userSide hl hnodup huser
  obtain ⟨items, hitems, hsigned⟩ := guardedPrimary_ok hl hprimary
  refine within_closing henv hfits hnodup hrange hid fun tc cosigned material hcosigners hmaterial id => ?_
  obtain ⟨asks', hcosigned⟩ := cosignerSide hl hnodup hcosigners
  obtain ⟨assemblyTargets, hmade, hout⟩ := bind_eq_ok.mp hmaterial
  cases hout
  obtain ⟨hindices, hok⟩ := guardedTargets_ok hside hcosigned (fun target ht => (hchecked target ht).1) hmade
  obtain ⟨hpositions, hbytes'⟩ := dummies_signed hsdk hle hdummies
  refine assemblyRequestOk_of_parts id hbytes (hlen.symm ▸ hle) hperm hindices hok hsigned.items
    ⟨hpositions.trans (congrArg (contiguousIndices slots.length) hlen.symm), hbytes'⟩ ?_
  show out.2.Perm _
  rw [hitems]
  exact List.perm_append_comm

/-- Keeping the keys found before does not change what they select. -/
theorem Declarable.of_withKeys {d : Dialect} {found : List (Option KeyInfo)} {t u : Trace signer}
    (hfound : Runs (collect (preparedFlowKey d opts.userClient) opts.transactions.zipIdx) t (.ok found))
    (h : Declarable L opts (t ++ u)) : Declarable L (withKeys d opts found) u := by
  intro hgo user huser hother
  rw [withKeys_userClient] at huser
  have hlen := withKeys_length hfound
  rw [huser] at hfound
  have hitem : ∀ item ∈ (withKeys d opts found).transactions, ∃ item₀ ∈ opts.transactions,
      item.transaction = item₀.transaction ∧ ∀ key, KeyOf user u item key → KeyOf user (t ++ u) item₀ key := by
    intro item hmem
    obtain ⟨i, hi⟩ := List.mem_iff_getElem?.mp hmem
    obtain ⟨hlt, -⟩ := List.getElem?_eq_some_iff.mp hi
    have hi₀ := List.getElem?_eq_getElem (hlen ▸ hlt : i < opts.transactions.length)
    obtain ⟨k, hk, hkeys⟩ := withKeys_item hfound hi₀
    rw [hi] at hk
    cases hk
    exact ⟨_, List.mem_of_getElem? hi₀, rfl, hkeys u⟩
  obtain ⟨item', hmem', key', hkey', hflow'⟩ := hother
  obtain ⟨item₀', hmem₀', -, hkeys'⟩ := hitem item' hmem'
  intro item hmem key txn x hkey htxn hflow hselects
  obtain ⟨item₀, hmem₀, htxn₀, hkeys⟩ := hitem item hmem
  exact h hgo user huser ⟨item₀', hmem₀', key', hkeys' key' hkey', hflow'⟩ item₀ hmem₀ key txn x (hkeys key hkey)
    (htxn₀ ▸ htxn) hflow hselects

theorem withKeys_assemblyRequestId {d : Dialect} {found : List (Option KeyInfo)} :
    (withKeys d opts found).assemblyRequestId = opts.assemblyRequestId := by
  unfold withKeys
  split <;> rfl

/-- A run of the call that chooses, without the checks, is a run with them. -/
theorem prepared_within (henv : env.KnowsAscii) (hsdk : env.toAlgoSdk.SignsBytes)
    (hid : ValidRequestId opts.assemblyRequestId) (hd : Declarable L opts t) {r : Except SdkError GuardedSignResult}
    (h : Runs (signPreparedGuardedGroup (L.dialect env).unchecked opts) t r) :
    Runs (signPreparedGuardedGroup (L.dialect env) opts) t r := by
  rcases runs_lift_bind.mp h with hfail | ⟨_, hfirst, h⟩
  · exact runs_lift_bind.mpr (Or.inl hfail)
  refine runs_lift_bind.mpr (Or.inr ⟨(), hfirst, ?_⟩)
  rcases runs_bind.mp h with ⟨e, hkeys, hr⟩ | ⟨found, t₁, t₂, rfl, hfound, h⟩
  · exact runs_bind.mpr (Or.inl ⟨e, hkeys, hr⟩)
  refine runs_bind.mpr (Or.inr ⟨found, t₁, t₂, rfl, hfound, ?_⟩)
  have hid' : ValidRequestId (withKeys (L.dialect env) opts found).assemblyRequestId := by
    rw [withKeys_assemblyRequestId]
    exact hid
  by_cases hbounded : hasFlow signingFlowBoundedCosigner1 found = true
  · rw [if_pos hbounded] at h ⊢
    by_cases hguarded : hasFlow signingFlowCosigner1 found = true
    · rw [if_pos hguarded] at h ⊢
      exact h
    · rw [if_neg hguarded] at h ⊢
      exact bounded_within henv hsdk hid' (Declarable.of_withKeys hfound hd) h
  · rw [if_neg hbounded] at h ⊢
    exact guarded_within henv hsdk hid' t₂ r h

/-! ### Everything passes -/

theorem passes_of_plan {e : Exchange} (h : exchangeKind e ∈ [.key, .plan]) : Passes (L.dialect env).calls e := by
  obtain ⟨op, ans⟩ := e
  cases op with
  | components => exact absurd h not_key_or_plan
  | sign => exact absurd h sign_not_key_or_plan
  | assemble => simp [exchangeKind] at h
  | _ => trivial

theorem passes_bounded : Emits (Passes (L.dialect env).calls)
    (signPreparedBoundedCosignerGroup (L.dialect env) opts) := by
  refine emits_bind (fun t r hr e he => passes_of_plan (onlyKinds_planBounded t r hr e he)) fun out => ?_
  exact emits_bind (emits_mapError passes_requestComponents) fun base => emits_bind (emits_lift _) fun _ =>
    emits_bind passes_boundedPrimary fun _ => emits_bind (passes_closing (L.lawful_dialect env)) fun _ =>
      emits_pure _

theorem passes_prepared : Emits (Passes (L.dialect env).calls) (signPreparedGuardedGroup (L.dialect env) opts) := by
  refine emits_bind (emits_lift _) fun _ => emits_bind (fun t r hr e he => ?_) fun found => ?_
  · exact passes_of_plan ((onlyKinds_flowKeys.mono (by simp)) t r hr e he)
  · split
    · split
      · exact emits_done _
      · exact passes_bounded
    · refine emits_bind (fun t r hr e he => passes_of_plan (onlyKinds_buildGuarded t r hr e he)) fun signOpts => ?_
      exact emits_bind (emits_lift _) fun _ => emits_bind passes_userPhase fun _ =>
        emits_bind passes_guardedPrimary fun _ => emits_bind (passes_closing (L.lawful_dialect env)) fun _ =>
          emits_pure _

end Flows

/-- The positions of a component request, each in the part that names it. -/
def ComponentRequest.positions (r : ComponentRequest) : List ℤ :=
  r.targets.map (·.targetIndex) ++ r.contextualPositions.map (·.targetIndex) ++
    r.dummyPositions.map (·.targetIndex)

/-- Every position of the group once, and the dummies at its end. -/
structure CoversOnce (r : ComponentRequest) : Prop where
  once : r.positions.Perm (originals r.groupBytesHex.length)
  suffix : r.dummyPositions.map (·.targetIndex) = contiguousIndices r.originalCount r.groupBytesHex.length

theorem ComponentRequestOk.coversOnce {hasArgs : Option (List (String × String)) → Bool} {r : ComponentRequest}
    (h : ComponentRequestOk hasArgs r) : CoversOnce r := by
  have hle := h.dummies_le
  have hcount : r.originalCount ≤ r.groupBytesHex.length := Nat.sub_le ..
  have hsuffix : r.dummyPositions.map (·.targetIndex) =
      contiguousIndices r.originalCount r.groupBytesHex.length := by
    have hlen : (r.dummyPositions.map (·.targetIndex)).length =
        (contiguousIndices r.originalCount r.groupBytesHex.length).length := by
      rw [List.length_map, length_contiguousIndices, ComponentRequest.originalCount]
      omega
    refine List.ext_getElem hlen fun k hk hk' => ?_
    rw [List.getElem_map, getElem?_contiguousIndices (List.getElem?_eq_getElem hk')]
    exact h.suffix k _ (List.getElem?_eq_getElem (by simpa using hk))
  refine ⟨?_, hsuffix⟩
  rw [ComponentRequest.positions, hsuffix, ← originals_append hcount]
  refine List.Perm.append_right _ ((List.perm_ext_iff_of_nodup h.nodup (nodup_originals _)).mpr fun i => ?_)
  rw [mem_originals]
  constructor
  · exact h.range i
  · intro hi
    have hcover := h.cover i.toNat (by omega)
    rwa [Int.toNat_of_nonneg hi.1] at hcover

namespace Demo

/-- The bounded flow of the pair in Go, without the checks. -/
noncomputable def uncheckedFlow (opts : PreparedGuardedGroupOptions) : Flow GuardedSignResult :=
  (Entry.bounded opts).flow (Language.go.dialect pairEnv).unchecked

def isSign (e : Exchange) : Bool :=
  match e.op with
  | .sign .. => true
  | _ => false

/-- The pair, with a key whose program has no bytes. -/
def looseOptions : PreparedGuardedGroupOptions :=
  { pairOptions with
    transactions :=
      [{ transaction := some groupedPayment, authAddress := payer,
         signerKey := some { keyOf signingFlowBoundedCosigner1 with
           logicSigResources := some { default := some { usage with programBytes := 0 } } } },
        { transaction := some groupedAppCall, authAddress := appCaller, signerKey := some { address := appCaller } }] }

/-- The entries at `/sign` of an exchange are refused. -/
noncomputable def signRefused (e : Exchange) : Bool :=
  match e.op with
  | .sign _ req => !Except.isOk (Go.validateGroupSignRequest pairEnv req)
  | _ => false

end Demo

end AplaneSdk
