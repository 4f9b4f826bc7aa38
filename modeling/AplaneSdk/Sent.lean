/-
# What a run sends

Whichever way a run of a choreography ends, every exchange in it has one of a
few forms: the base request of a bounded group, the requests of the rounds
for users and cosigners, the entries at `/sign`, the assembly request. Each
is built from the slots of a plan that passed its checks, and `Frozen` is
what a run knows of these slots.

Key definitions: `Frozen`, `BoundedSent`, `GuardedSent`.
Key theorems: `bounded_run`, `bounded_sent`, `guarded_sent`,
`preparedGuarded_sent`, `prepared_sent`.
-/
import AplaneSdk.Entries

namespace AplaneSdk

open Checks Grouping Interaction Interaction.Prog

/-! ### The plan behind a run -/

/-- A checked plan with what the run did to get it: the entries it sent are
valid, one slot at least is a target, and no slot was signed before. -/
structure Frozen (d : Dialect) (copy : Txn → Except SdkError Txn) (sort : SortSlot)
    (check : List Slot → PlanGroupResponse → Except SdkError (List Txn))
    (opts : PreparedGuardedGroupOptions) (t : Trace signer) (user : Client) (keys : List KeyInfo)
    (slots : List Slot) (plan : PlanGroupResponse) (planned : List Txn) : Prop extends
    Planned copy sort check opts t user keys slots plan planned where
  valid : d.calls.validatePlan (slots.map (·.request)) = .ok ()
  targets : slots.filterMap Slot.target? ≠ []
  unsigned : ∀ item ∈ opts.transactions, item.signedTransactionBase64 = ""
  only : ∀ e ∈ t, exchangeKind e = .plan → e.op = .plan user (slots.map (·.request))

abbrev BoundedFrozen (d : Dialect) := Frozen d .ok (sortBounded d.rules) (checkBoundedPlan d)

abbrev GuardedFrozen (d : Dialect) := Frozen d d.rules.clone (sortGuarded d.rules) (checkGuardedPlan d)

section Plans

variable {d : Dialect} {copy : Txn → Except SdkError Txn} {sort : SortSlot}
  {check : List Slot → PlanGroupResponse → Except SdkError (List Txn)}
  {opts : PreparedGuardedGroupOptions} {t t' : Trace signer} {user : Client} {keys : List KeyInfo}
  {slots : List Slot} {plan : PlanGroupResponse} {planned : List Txn}

theorem Frozen.extend (h : Frozen d copy sort check opts t user keys slots plan planned) (ht : t ⊆ t')
    (hother : ∀ e ∈ t', exchangeKind e = .plan → e ∈ t) :
    Frozen d copy sort check opts t' user keys slots plan planned where
  toPlanned := h.toPlanned.mono ht
  valid := h.valid
  targets := h.targets
  unsigned := h.unsigned
  only e he hkind := h.only e (hother e he hkind) hkind

theorem preparedTxn_unsigned {rules : SlotRules} {flow : String} {i : ℕ} {item : PreparedTransaction} {txn : Txn}
    (h : preparedTxn rules flow i item = .ok txn) : item.signedTransactionBase64 = "" := by
  simp only [preparedTxn, bind_eq_ok, failIf_ok, not_not] at h
  obtain ⟨_, hunsigned, -⟩ := h
  exact hunsigned

theorem boundedSlot_unsigned {rules : SlotRules} {i : ℕ} {item : PreparedTransaction} {slot : Slot}
    (h : Runs (boundedSlot rules user i item) t (.ok slot)) : item.signedTransactionBase64 = "" := by
  obtain ⟨txn, htxn, -⟩ := runs_lift_bind_ok.mp h
  exact preparedTxn_unsigned htxn

theorem guardedSlot_unsigned {rules : SlotRules} {i : ℕ} {item : PreparedTransaction} {slot : Slot}
    (h : Runs (guardedSlot rules user i item) t (.ok slot)) : item.signedTransactionBase64 = "" := by
  obtain ⟨prepared, hprepared, -⟩ := runs_lift_bind_ok.mp h
  exact preparedTxn_unsigned hprepared

/-- The slots of a run that was planned. -/
theorem planSlots_frozen (hl : d.Lawful) (copy : Txn → Except SdkError Txn) (sort : SortSlot)
    {slot : Client → ℕ → PreparedTransaction → Flow Slot}
    {noTargets : String} {wrap : SdkError → SdkError} {group : List String}
    (hkinds : ∀ user i item, OnlyKinds [.key] (slot user i item))
    (hslot : ∀ user i item t out, Runs (slot user i item) t (.ok out) → ∃ key prepared txn,
      KeyOf user t item key ∧ item.transaction = some prepared ∧ copy prepared = .ok txn ∧
        sort i item txn key = .ok out)
    (hunsigned : ∀ user i item t out, Runs (slot user i item) t (.ok out) → item.signedTransactionBase64 = "")
    (h : Runs (planSlots d slot noTargets wrap check opts) t (.ok (user, slots, group, planned))) :
    ∃ keys plan, group = plan.transactions ∧
      Frozen d copy sort check opts t user keys slots plan planned := by
  obtain ⟨keys, plan, hgroup, hplanned⟩ := planSlots_ok hl copy sort hslot h
  obtain ⟨user', huser, h⟩ := runs_lift_bind_ok.mp h
  obtain ⟨_, -, h⟩ := runs_lift_bind_ok.mp h
  obtain ⟨slots', t₁, t₂, rfl, hslots, hrest⟩ := runs_bind_ok.mp h
  obtain ⟨_, htargets, hrest⟩ := runs_lift_bind_ok.mp hrest
  obtain ⟨plan', t₃, t₄, rfl, hplan, hcheck⟩ := runs_bind_ok.mp hrest
  obtain ⟨planned', -, rfl, hout⟩ := runs_lift_bind_ok.mp hcheck
  cases hout
  obtain ⟨_, t₅, reply, hnone, hvalid, rfl, -⟩ := runs_exchange_ok.mp (runs_mapError_ok.mp hplan)
  obtain ⟨rfl, -⟩ := hnone
  refine ⟨keys, plan, hgroup, hplanned, hvalid, failIf_ok.mp htargets, fun item hitem => ?_, fun e he hkind => ?_⟩
  · obtain ⟨i, hi⟩ := List.mem_iff_getElem?.mp hitem
    obtain ⟨hlen, heach⟩ := runs_collect_ok hslots
    obtain ⟨slot', hs⟩ := hplanned.sorted.of_item hi
    obtain ⟨t', -, hrun⟩ := heach i (item, i) slot' (by simp [hi]) hs
    exact hunsigned user i item t' slot' hrun
  · rcases List.mem_append.mp he with he | he
    · have hkey : OnlyKinds [.key] (sortSlots (slot user) opts.transactions) :=
        emits_collect _ fun p _ => hkinds user p.2 p.1
      exact absurd hkind (kind_ne (hkey _ _ hslots) (by decide) he)
    · rw [List.append_nil, List.nil_append] at he
      rw [List.mem_singleton.mp he]

theorem planBounded_frozen (hl : d.Lawful) {group : List String}
    (h : Runs (planBounded d opts) t (.ok (user, slots, group, planned))) :
    ∃ keys plan, group = plan.transactions ∧ BoundedFrozen d opts t user keys slots plan planned :=
  planSlots_frozen hl .ok (sortBounded d.rules) (fun _ _ _ => onlyKinds_boundedSlot)
    (fun _ _ _ _ _ hrun =>
      let ⟨key, txn, hkey, htxn, hsort⟩ := boundedSlot_ok hrun
      ⟨key, txn, txn, hkey, htxn, rfl, hsort⟩)
    (fun _ _ _ _ _ => boundedSlot_unsigned) h

/-- The options the guarded choreography gets for the slots of a plan. -/
def guardedOptionsOf (d : Dialect) (opts : PreparedGuardedGroupOptions) (user : Client) (slots : List Slot)
    (planned : List Txn) (dummies : List AssemblyPassthroughItem) : GuardedSignOptions where
  userClient := some user
  cosigner := opts.cosigner
  groupBytesHex := planned.map fun txn => hexEncode (d.codec.sdk.encodeTxn txn)
  targets := slots.filterMap Slot.target?
  primaryTargets := slots.filterMap Slot.primary?
  passthrough := dummies
  dummyPositions := contiguousIndices slots.length planned.length
  assemblyRequestId := opts.assemblyRequestId

/-- The options of the guarded choreography, made from a checked plan. -/
theorem buildGuarded_frozen (hl : d.Lawful) {out : GuardedSignOptions}
    (h : Runs (buildPreparedGuardedSignOptions d opts) t (.ok out)) :
    ∃ user keys slots plan planned dummies, GuardedFrozen d opts t user keys slots plan planned ∧
      signGuardedDummies d.codec d.addressFailure d.signFailure (planned.drop slots.length) slots.length =
        .ok dummies ∧
      out = guardedOptionsOf d opts user slots planned dummies := by
  unfold buildPreparedGuardedSignOptions at h
  obtain ⟨⟨user, slots, group, planned⟩, t₁, t₂, rfl, hplan, hrest⟩ := runs_bind_ok.mp h
  obtain ⟨dummies, hdummies, rfl, hout⟩ := runs_lift_bind_ok.mp hrest
  obtain ⟨keys, plan, -, hfrozen⟩ := planSlots_frozen hl d.rules.clone (sortGuarded d.rules)
    (fun _ _ _ => onlyKinds_guardedSlot) (fun _ _ _ _ _ => guardedSlot_ok) (fun _ _ _ _ _ => guardedSlot_unsigned) hplan
  rw [List.append_nil]
  exact ⟨user, keys, slots, plan, planned, dummies, hfrozen, hdummies, Except.ok.inj hout⟩

theorem Frozen.bounded_lengths (hl : d.Lawful) (h : BoundedFrozen d opts t user keys slots plan planned) :
    plan.transactions.length = planned.length ∧ slots.length ≤ planned.length := by
  obtain ⟨hdecode, hvalid, -⟩ := checkBoundedPlan_ok h.checked
  have hle := validateBoundedComponentPlan_length hvalid
  rw [List.length_map] at hle
  exact ⟨(decodeCanonicalGroup_ok hl.codec hdecode).1, hle⟩

theorem Frozen.guarded_length (h : GuardedFrozen d opts t user keys slots plan planned) :
    slots.length ≤ planned.length := by
  have hle := validateBoundedComponentPlan_length (checkGuardedPlan_ok h.checked).2
  rwa [List.length_map] at hle

@[simp] theorem length_contiguousIndices (start stop : ℕ) :
    (contiguousIndices start stop).length = stop - start := by
  simp [contiguousIndices]

/-- The positions before the dummies are those of the slots. -/
theorem Language.originalCount_slots (env : Env) (L : Language) {n k : ℕ} (h : k ≤ n) :
    (L.dialect env).originalCount n (n - k) = k := by
  rw [L.originalCount_eq env (Nat.sub_le n k)]
  exact Nat.sub_sub_self h

end Plans

/-! ### The exchanges after the plan -/

/-- An exchange of a bounded run after its plan. -/
inductive BoundedSent (d : Dialect) (user : Client) (slots : List Slot) (group : List String) :
    Exchange → Prop
  | id {purpose : Purpose} {ans} : BoundedSent d user slots group ⟨.newRequestId purpose, ans⟩
  | order {groups : List CosignerGroup} {ans} : BoundedSent d user slots group ⟨.groupOrder groups, ans⟩
  | base {id : String} {reply} (valid : d.calls.validateComponentRequest
      { baseComponentRequest group slots with requestId := id } = .ok ()) :
      BoundedSent d user slots group
        ⟨.components user { baseComponentRequest group slots with requestId := id }, reply⟩
  | sign {id : String} {reply} : BoundedSent d user slots group
      ⟨.sign user ⟨id, group.zipIdx.map fun p => boundedEntry d slots p.2 p.1⟩, reply⟩
  | cosigner {client : Client} {key : String} {indices : List ℤ} {id : String} {reply}
      (valid : d.calls.validateComponentRequest { componentRequestForIndices d (boundedFrame d group slots)
        .cosigner key indices with requestId := id } = .ok ()) :
      BoundedSent d user slots group ⟨.components client { componentRequestForIndices d
        (boundedFrame d group slots) .cosigner key indices with requestId := id }, reply⟩
  | assemble {client : Client} {req : AssemblyRequest} {reply} :
      BoundedSent d user slots group ⟨.assemble client req, reply⟩

/-- An exchange of a guarded run. -/
inductive GuardedSent (d : Dialect) (opts : GuardedSignOptions) (user : Client)
    (targets : List GuardedSignTarget) : Exchange → Prop
  | id {purpose : Purpose} {ans} : GuardedSent d opts user targets ⟨.newRequestId purpose, ans⟩
  | order {groups : List CosignerGroup} {ans} : GuardedSent d opts user targets ⟨.groupOrder groups, ans⟩
  | components {client : Client} {kind : ComponentTargetKind} {key : String} {indices : List ℤ} {id : String}
      {reply} (notBase : kind ≠ .boundedBase) (valid : d.calls.validateComponentRequest
        { componentRequestForIndices d (opts.frame targets) kind key indices with requestId := id } = .ok ()) :
      GuardedSent d opts user targets ⟨.components client
        { componentRequestForIndices d (opts.frame targets) kind key indices with requestId := id }, reply⟩
  | sign {req : GroupSignRequest} {reply} : GuardedSent d opts user targets ⟨.sign user req, reply⟩
  | assemble {client : Client} {req : AssemblyRequest} {reply} :
      GuardedSent d opts user targets ⟨.assemble client req, reply⟩

theorem not_key_or_plan {client : Client} {req : ComponentRequest} {reply : Reply ComponentResponse} :
    exchangeKind ⟨.components client req, reply⟩ ∉ [.key, .plan] := by
  simp only [exchangeKind]
  split <;> decide

theorem sign_not_key_or_plan {client : Client} {req : GroupSignRequest} {reply : Reply GroupSignResponse} :
    exchangeKind ⟨.sign client req, reply⟩ ∉ [.key, .plan] := by
  simp [exchangeKind]

/-- An exchange of a bounded run after its plan, with the plan. -/
def SentBounded (d : Dialect) (opts : PreparedGuardedGroupOptions) (t : Trace signer) (e : Exchange) : Prop :=
  ∃ user keys slots plan planned, BoundedFrozen d opts t user keys slots plan planned ∧
    BoundedSent d user slots plan.transactions e

/-- An exchange of a guarded run from prepared slots after its plan, with the plan. -/
def SentGuarded (d : Dialect) (opts : PreparedGuardedGroupOptions) (t : Trace signer) (e : Exchange) : Prop :=
  ∃ user keys slots plan planned dummies targets, GuardedFrozen d opts t user keys slots plan planned ∧
    signGuardedDummies d.codec d.addressFailure d.signFailure (planned.drop slots.length) slots.length =
      .ok dummies ∧
    guardedPrelude d (guardedOptionsOf d opts user slots planned dummies) = .ok (user, targets) ∧
    GuardedSent d (guardedOptionsOf d opts user slots planned dummies) user targets e

section Events

variable {d : Dialect} {S : Exchange → Prop} {user : Client}

theorem kind_components_ne_plan {client : Client} {req : ComponentRequest} {reply : Reply ComponentResponse} :
    exchangeKind ⟨.components client req, reply⟩ ≠ .plan := by
  simp only [exchangeKind]
  split <;> decide

theorem BoundedSent.kind_ne {slots : List Slot} {group : List String} {e : Exchange}
    (h : BoundedSent d user slots group e) : exchangeKind e ≠ .plan := by
  cases h with
  | base => exact kind_components_ne_plan
  | cosigner => exact kind_components_ne_plan
  | _ => exact fun hkind => by cases hkind

theorem GuardedSent.kind_ne {opts : GuardedSignOptions} {targets : List GuardedSignTarget} {e : Exchange}
    (h : GuardedSent d opts user targets e) : exchangeKind e ≠ .plan := by
  cases h with
  | components => exact kind_components_ne_plan
  | _ => exact fun hkind => by cases hkind

theorem emits_requestComponents {client : Client} {req : ComponentRequest}
    (hid : ∀ purpose ans, S ⟨.newRequestId purpose, ans⟩)
    (hreq : ∀ id reply, d.calls.validateComponentRequest { req with requestId := id } = .ok () →
      S ⟨.components client { req with requestId := id }, reply⟩) :
    Emits S (requestComponents d.calls client req) :=
  emits_exchange_valid (emits_fillRequestId (hid _)) fun _ id reply _ hv => hreq id reply (mapErr_ok.mp hv)

/-- The closing of a choreography sends cosigner requests and an assembly request. -/
theorem emits_cosignAndAssemble (hl : d.Lawful) {c : Closing}
    (hid : ∀ purpose ans, S ⟨.newRequestId purpose, ans⟩) (horder : ∀ groups ans, S ⟨.groupOrder groups, ans⟩)
    (hreq : ∀ client key indices id reply, d.calls.validateComponentRequest
      { componentRequestForIndices d c.frame .cosigner key indices with requestId := id } = .ok () →
      S ⟨.components client
        { componentRequestForIndices d c.frame .cosigner key indices with requestId := id }, reply⟩)
    (hassemble : ∀ req reply, S ⟨.assemble c.user req, reply⟩) : Emits S (cosignAndAssemble d c) := by
  refine emits_bind ?_ fun responses => emits_bind (emits_lift _) fun material => emits_bind ?_ fun resp =>
    emits_bind (emits_lift _) fun _ => emits_pure _
  · refine emits_bind (emits_lift _) fun resolved => emits_bind (hl.emits_order (horder _)) fun groups =>
      emits_collect _ fun group _ => ?_
    unfold requestCosignerGroup
    split
    · exact emits_done _
    · exact emits_requestComponents hid fun id reply => hreq _ _ _ id reply
  · exact emits_mapError (emits_exchange (emits_fillRequestId (hid _)) fun id reply => hassemble _ reply)

theorem emits_boundedPrimary {group : List String} {slots : List Slot}
    (hid : ∀ purpose ans, S ⟨.newRequestId purpose, ans⟩)
    (hsign : ∀ id reply, S ⟨.sign user ⟨id, group.zipIdx.map fun p => boundedEntry d slots p.2 p.1⟩, reply⟩) :
    Emits S (requestBoundedPrimaryPassthrough d user group slots) := by
  unfold requestBoundedPrimaryPassthrough
  dsimp only
  split
  · exact emits_pure _
  · exact emits_bind (emits_mapError (emits_exchange (emits_newRequestId (hid _)) hsign)) fun _ =>
      emits_bind (emits_lift _) fun _ => emits_pure _

/-- A bounded run ends before its plan was checked, or everything it
exchanges after that is built from the slots of the plan. -/
theorem bounded_run (hl : d.Lawful) {opts : PreparedGuardedGroupOptions} {t : Trace signer}
    {r : Except SdkError GuardedSignResult} (h : Runs (signPreparedBoundedCosignerGroup d opts) t r) :
    (∀ e ∈ t, exchangeKind e ∈ [.key, .plan]) ∨
      ∃ user keys slots plan planned, BoundedFrozen d opts t user keys slots plan planned ∧
        ∀ e ∈ t, exchangeKind e ∈ [.key, .plan] ∨ BoundedSent d user slots plan.transactions e := by
  rcases runs_bind.mp h with ⟨_, hplan, -⟩ | ⟨⟨user, slots, group, planned⟩, t₁, t₂, rfl, hplan, hrest⟩
  · exact Or.inl (onlyKinds_planBounded _ _ hplan)
  obtain ⟨keys, plan, rfl, hfrozen⟩ := planBounded_frozen hl hplan
  have hsent : ∀ e ∈ t₂, BoundedSent d user slots plan.transactions e := by
    dsimp only at hrest
    refine emits_bind ?_ (fun base => emits_bind (emits_lift _) fun _ => emits_bind ?_ fun out =>
      emits_bind ?_ fun _ => emits_pure _) t₂ r hrest
    · exact emits_mapError (emits_requestComponents (fun _ _ => .id) fun _ _ hv => .base hv)
    · exact emits_boundedPrimary (fun _ _ => .id) fun _ _ => .sign
    · exact emits_cosignAndAssemble hl (fun _ _ => .id) (fun _ _ => .order)
        (fun _ _ _ _ _ hv => .cosigner hv) fun _ _ => .assemble
  refine Or.inr ⟨user, keys, slots, plan, planned, hfrozen.extend (List.subset_append_left ..) ?_, ?_⟩
  · intro e he hkind
    exact (List.mem_append.mp he).resolve_right fun h' => (hsent e h').kind_ne hkind
  · intro e he
    exact (List.mem_append.mp he).imp (onlyKinds_planBounded _ _ hplan e) (hsent e)

/-- Every exchange of a bounded run comes before its plan was checked, or is
built from the slots of the plan. -/
theorem bounded_sent (hl : d.Lawful) {opts : PreparedGuardedGroupOptions} {t : Trace signer}
    {r : Except SdkError GuardedSignResult} (h : Runs (signPreparedBoundedCosignerGroup d opts) t r)
    {e : Exchange} (he : e ∈ t) : exchangeKind e ∈ [.key, .plan] ∨ SentBounded d opts t e := by
  rcases bounded_run hl h with hnone | ⟨user, keys, slots, plan, planned, hfrozen, hsent⟩
  · exact Or.inl (hnone e he)
  · exact (hsent e he).imp id fun hsent => ⟨user, keys, slots, plan, planned, hfrozen, hsent⟩

/-- Every exchange of a guarded run is built from its options. -/
theorem guarded_sent (hl : d.Lawful) {opts : GuardedSignOptions} {t : Trace signer}
    {r : Except SdkError GuardedSignResult} (h : Runs (signGuardedGroup d opts) t r) {e : Exchange}
    (he : e ∈ t) : ∃ user targets, guardedPrelude d opts = .ok (user, targets) ∧
      GuardedSent d opts user targets e := by
  rcases runs_lift_bind.mp h with ⟨_, -, rfl, -⟩ | ⟨⟨user, targets⟩, hprelude, h⟩
  · cases he
  refine ⟨user, targets, hprelude, ?_⟩
  have huser : Emits (GuardedSent d opts user targets)
      (requestUserComponentSignatures d user (opts.frame targets) targets) :=
    emits_collect _ fun p _ => emits_requestComponents (fun _ _ => .id)
      fun _ _ hv => .components (by decide) hv
  have hprimary : Emits (GuardedSent d opts user targets) (guardedPrimary d opts user targets) := by
    refine emits_bind (emits_lift _) fun passthrough => ?_
    split
    · exact emits_pure _
    · refine emits_bind (emits_bind (emits_lift _) fun requests => ?_) fun _ => emits_pure _
      exact emits_bind (emits_exchange (emits_newRequestId fun _ => .id) fun _ _ => .sign) fun _ =>
        emits_bind (emits_lift _) fun _ => emits_pure _
  dsimp only at h
  refine emits_bind huser (fun responses => emits_bind hprimary fun out => emits_bind ?_ fun _ =>
    emits_pure _) t r h e he
  exact emits_cosignAndAssemble hl (fun _ _ => .id) (fun _ _ => .order)
    (fun _ _ _ _ _ hv => .components (by decide) hv) fun _ _ => .assemble

/-- The guarded choreography from prepared slots. -/
theorem preparedGuarded_sent (hl : d.Lawful) {opts : PreparedGuardedGroupOptions} {t : Trace signer}
    {r : Except SdkError GuardedSignResult}
    (h : Runs (buildPreparedGuardedSignOptions d opts >>= signGuardedGroup d) t r) {e : Exchange} (he : e ∈ t) :
    exchangeKind e ∈ [.key, .plan] ∨ SentGuarded d opts t e := by
  rcases runs_bind.mp h with ⟨_, hbuild, -⟩ | ⟨signOpts, t₁, t₂, rfl, hbuild, hsign⟩
  · exact Or.inl (onlyKinds_buildGuarded _ _ hbuild e he)
  rcases List.mem_append.mp he with he | he
  · exact Or.inl (onlyKinds_buildGuarded _ _ hbuild e he)
  obtain ⟨user, keys, slots, plan, planned, dummies, hfrozen, hdummies, rfl⟩ := buildGuarded_frozen hl hbuild
  obtain ⟨user', targets, hprelude, hsent⟩ := guarded_sent hl hsign he
  cases (guardedPrelude_ok hprelude).1
  refine Or.inr ⟨user, keys, slots, plan, planned, dummies, targets,
    hfrozen.extend (List.subset_append_left ..) fun e' he' hkind => ?_, hdummies, hprelude, hsent⟩
  refine (List.mem_append.mp he').resolve_right fun h' => ?_
  obtain ⟨_, _, -, hsent'⟩ := guarded_sent hl hsign h'
  exact hsent'.kind_ne hkind

/-- The call that chooses: it looks the keys up, and goes one of the two ways. -/
theorem prepared_sent (hl : d.Lawful) {opts : PreparedGuardedGroupOptions} {t : Trace signer}
    {r : Except SdkError GuardedSignResult} (h : Runs (signPreparedGuardedGroup d opts) t r) {e : Exchange}
    (he : e ∈ t) : exchangeKind e ∈ [.key, .plan] ∨ ∃ found t₁ t₂, t = t₁ ++ t₂ ∧
      Runs (collect (preparedFlowKey d opts.userClient) opts.transactions.zipIdx) t₁ (.ok found) ∧
      (SentBounded d (withKeys d opts found) t₂ e ∨ SentGuarded d (withKeys d opts found) t₂ e) := by
  have hkinds : OnlyKinds [.key, .plan] (collect (preparedFlowKey d opts.userClient) opts.transactions.zipIdx) :=
    onlyKinds_flowKeys.mono (by simp)
  rcases runs_lift_bind.mp h with ⟨_, -, rfl, -⟩ | ⟨_, -, h⟩
  · cases he
  rcases runs_bind.mp h with ⟨_, hfound, -⟩ | ⟨found, t₁, t₂, rfl, hfound, h⟩
  · exact Or.inl (hkinds _ _ hfound e he)
  rcases List.mem_append.mp he with he | he
  · exact Or.inl (hkinds _ _ hfound e he)
  split at h
  · split at h
    · rw [h.1] at he
      cases he
    · refine (bounded_sent hl h he).imp id fun hsent => ?_
      exact ⟨found, t₁, t₂, rfl, hfound, Or.inl hsent⟩
  · refine (preparedGuarded_sent hl h he).imp id fun hsent => ?_
    exact ⟨found, t₁, t₂, rfl, hfound, Or.inr hsent⟩

end Events

end AplaneSdk
