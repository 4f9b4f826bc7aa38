/-
# What is signed is what was prepared

A choreography that succeeds returns signatures of the planned group, and the
planned group is the prepared one up to what the plan's report declares:
`SafeGroup` is the whole of it, and nothing is assumed of the signer, the
cosigners or the assembler. Of the Algorand SDK it is assumed that decoding
inverts encoding.

Key definitions: `SafeGroup`, `SignsAs`.
Key theorems: `Planned.safe`, `signsAs_of_verified`, `boundedFlow_safe`,
`preparedFlow_safe`.
-/
import AplaneSdk.Entries

namespace AplaneSdk

open Checks Interaction Interaction.Prog

/-- The group `final` may be submitted for the transactions `originals`: it
differs from them as the report `view` says, and its group id is its hash. -/
structure SafeGroup (sdk : AlgoSdk) (view : Option ReportView) (originals final : List Txn) : Prop
    extends PlanOk sdk view originals final where
  length_max : final.length ≤ maxTxGroupSize
  groupId : GroupIdOk sdk final

/-- The signed transactions `signed` are signatures of `final`, one each. -/
def SignsAs (codec : Codec) (signed : List String) (final : List Txn) : Prop :=
  signed.map codec.inner = final.map some

section Verified

variable {d : Dialect}

/-- A verified group signs the transactions whose bytes it was verified against. -/
theorem signsAs_of_verified (hl : d.Lawful) (hsdk : d.codec.sdk.Faithful) {group signed : List String}
    {final : List Txn} (hlen : group.length = final.length)
    (hbytes : ∀ (i : ℕ) s t, group[i]? = some s → final[i]? = some t →
      d.codec.unhex s = some (d.codec.sdk.encodeTxn t))
    (h : verifyAssembledGroup d.matchesCanonical group signed = .ok ()) : SignsAs d.codec signed final := by
  obtain ⟨hsigned, hall⟩ := verifyAssembledGroup_ok.mp h
  refine List.ext_getElem (by simp [hsigned, hlen]) fun i h₁ h₂ => ?_
  rw [List.length_map] at h₁ h₂
  have hi : i < group.length := hlen ▸ h₂
  have hc := List.getElem?_eq_getElem hi
  have hm := hall i _ _ (List.getElem?_eq_getElem h₁) hc
  obtain ⟨t, ht, henc⟩ := hl.pins _ _ _ _ _ (hbytes i _ _ hc (List.getElem?_eq_getElem h₂)) hm
  rw [List.getElem_map, List.getElem_map, ht, hsdk.encodeTxn_inj.mp henc]

variable {copy : Txn → Except SdkError Txn} {sort : SortSlot}
  {check : List Slot → PlanGroupResponse → Except SdkError (List Txn)}
  {opts : PreparedGuardedGroupOptions} {t : Trace signer} {user : Client} {keys : List KeyInfo}
  {slots : List Slot} {plan : PlanGroupResponse} {planned : List Txn}

/-- The prepared transactions are those of the slots. -/
theorem SlotsOf.transactions (hcopy : ∀ txn, copy txn = .ok txn)
    (hsort : ∀ {i item txn key slot}, sort i item txn key = .ok slot → slot.txn = txn)
    (h : SlotsOf copy sort user t opts.transactions keys slots) :
    opts.transactions.map (·.transaction) = (slots.map (·.txn)).map some := by
  refine List.ext_getElem (by simp [h.slots_length]) fun i h₁ h₂ => ?_
  simp only [List.length_map] at h₁ h₂
  have hs := List.getElem?_eq_getElem h₂
  obtain ⟨item, key, hi, -, -, prepared, txn, htxn, hc, hsorted⟩ := h.of_slot hs
  cases (hcopy prepared).symm.trans hc
  simp only [List.getElem_map]
  rw [(List.getElem?_eq_some_iff.mp hi).2, htxn, hsort hsorted]

/-- A plan that decoded and was validated is safe. -/
theorem safeGroup_of_plan (hl : d.Lawful) (hsdk : d.codec.sdk.Faithful) {originals : List Txn}
    (hdecode : decodeCanonicalGroup d.codec plan.transactions = .ok planned)
    (hplan : validateBoundedComponentPlan d.codec d.addressFailure originals planned
      (d.planView plan.mutations) = .ok ()) :
    SafeGroup d.codec.sdk (d.planView plan.mutations) originals planned := by
  obtain ⟨-, -, hmax, -, hgroup⟩ := decodeCanonicalGroup_ok hl.codec hdecode
  exact ⟨validateBoundedComponentPlan_ok hl.codec hsdk hplan, hmax, hgroup⟩

/-- The advertised maximal fee of a bounded-cosigner slot bounds its fee. -/
theorem targetFee_le (h : SlotsOf copy (sortBounded d.rules) user t opts.transactions keys slots)
    (hfees : validateBoundedTargetFees d.maxFeeOk planned (targetMaxFees slots) = .ok ()) {i : ℕ}
    {key : KeyInfo} {p : Txn} (hk : keys[i]? = some key) (hp : planned[i]? = some p)
    (hflow : key.signingFlow = signingFlowBoundedCosigner1) :
    ∃ bounded, key.boundedAuthorization = some bounded ∧ (p.fee : ℤ) ≤ bounded.maxFee := by
  obtain ⟨hlt, -⟩ := List.getElem?_eq_some_iff.mp hk
  have hs := List.getElem?_eq_getElem (h.slots_length ▸ h.keys_length ▸ hlt : i < slots.length)
  obtain ⟨item, key', -, hk', -, _, txn, -, -, hsort⟩ := h.of_slot hs
  cases hk.symm.trans hk'
  rcases (sortBounded_ok hsort).2 with ⟨target, bounded, hrole, -, hb, -⟩ | ⟨-, hne⟩
  · have hmem : (i, bounded.maxFee) ∈ targetMaxFees slots := by
      refine List.mem_filterMap.mpr ⟨(_, i), List.mem_zipIdx_iff_getElem?.mpr hs, ?_⟩
      rw [hrole]
    obtain ⟨p', hp', hle⟩ := validateBoundedTargetFees_ok hfees _ hmem
    cases hp.symm.trans hp'
    exact ⟨bounded, hb, hle⟩
  · exact absurd hflow hne

/-- The end of a choreography that verifies the assembled group. -/
theorem cosignAndAssemble_ok {c : Closing} (hverifies : c.verifies = true)
    {out : List ComponentResponse × AssemblyResponse} (h : Runs (cosignAndAssemble d c) t (.ok out)) :
    verifyAssembledGroup d.matchesCanonical c.frame.groupBytesHex out.2.signedGroup = .ok () := by
  obtain ⟨cosigned, t₁, t₂, rfl, -, hrest⟩ := runs_bind_ok.mp h
  obtain ⟨material, -, hrest⟩ := runs_lift_bind_ok.mp hrest
  obtain ⟨response, t₃, t₄, rfl, -, hverify⟩ := runs_bind_ok.mp hrest
  obtain ⟨_, hcheck, rfl, hout⟩ := runs_lift_bind_ok.mp hverify
  cases hout
  exact checkWhen_ok.mp hcheck hverifies

end Verified

section Flows

variable {d : Dialect} {opts : PreparedGuardedGroupOptions} {t : Trace signer} {res : GuardedSignResult}

theorem bounded_ok (hl : d.Lawful) (hsdk : d.codec.sdk.Faithful)
    (h : Runs (signPreparedBoundedCosignerGroup d opts) t (.ok res)) :
    ∃ user keys slots plan planned, BoundedPlan d opts t user keys slots plan planned ∧
      SignsAs d.codec res.signedGroup planned := by
  obtain ⟨⟨user, slots, group, planned⟩, t₁, t₂, rfl, hplan, hrest⟩ := runs_bind_ok.mp h
  obtain ⟨base, t₃, t₄, rfl, -, hrest⟩ := runs_bind_ok.mp hrest
  obtain ⟨_, -, hrest⟩ := runs_lift_bind_ok.mp hrest
  obtain ⟨⟨primary, items⟩, t₅, t₆, rfl, -, hrest⟩ := runs_bind_ok.mp hrest
  obtain ⟨⟨cosigned, response⟩, t₇, t₈, rfl, hclosing, hout⟩ := runs_bind_ok.mp hrest
  cases hout.2
  obtain ⟨keys, plan, rfl, hplanned⟩ := planBounded_ok hl hplan
  obtain ⟨hlen, -, -, hbytes, -⟩ := decodeCanonicalGroup_ok hl.codec (checkBoundedPlan_ok hplanned.checked).1
  exact ⟨user, keys, slots, plan, planned, hplanned.mono (List.subset_append_left ..),
    signsAs_of_verified hl hsdk hlen hbytes (cosignAndAssemble_ok rfl hclosing)⟩

theorem guarded_ok {opts : GuardedSignOptions} (hverifies : d.verifiesAssembled = true)
    (h : Runs (signGuardedGroup d opts) t (.ok res)) :
    verifyAssembledGroup d.matchesCanonical opts.groupBytesHex res.signedGroup = .ok () := by
  obtain ⟨⟨user, targets⟩, -, hrest⟩ := runs_lift_bind_ok.mp h
  obtain ⟨responses, t₁, t₂, rfl, -, hrest⟩ := runs_bind_ok.mp hrest
  obtain ⟨⟨primary, passthrough⟩, t₃, t₄, rfl, -, hrest⟩ := runs_bind_ok.mp hrest
  obtain ⟨⟨cosigned, response⟩, t₅, t₆, rfl, hclosing, hout⟩ := runs_bind_ok.mp hrest
  cases hout.2
  exact cosignAndAssemble_ok hverifies hclosing

/-- A prepared group that went the guarded way and was verified. -/
theorem preparedGuarded_ok (hl : d.Lawful) (hsdk : d.codec.sdk.Faithful)
    (hverifies : d.verifiesAssembled = true)
    (hunhex : ∀ bytes, d.codec.unhex (hexEncode bytes) = some bytes)
    (h : Runs (buildPreparedGuardedSignOptions d opts >>= signGuardedGroup d) t (.ok res)) :
    ∃ user keys slots plan planned, GuardedPlan d opts t user keys slots plan planned ∧
      SignsAs d.codec res.signedGroup planned := by
  obtain ⟨signOpts, t₁, t₂, rfl, hbuild, hsign⟩ := runs_bind_ok.mp h
  obtain ⟨user, keys, slots, plan, planned, hplan, -, -, hgroup, -⟩ := buildGuarded_ok hl hbuild
  have hverified := guarded_ok hverifies hsign
  rw [hgroup] at hverified
  refine ⟨user, keys, slots, plan, planned, hplan.mono (List.subset_append_left ..),
    signsAs_of_verified hl hsdk (List.length_map _) (fun i s txn hs ht => ?_) hverified⟩
  rw [List.getElem?_map, ht] at hs
  cases hs
  exact hunhex _

end Flows

/-! ### A group of one payment -/

namespace Demo

def usage : LogicSigResourceUsage where
  programBytes := 1000
  argumentBytes := 100
  maxOpcodeCost := 2000

def component (target : ComponentTarget) : Component :=
  match target.kind with
  | .boundedBase =>
    { targetIndex := target.targetIndex, kind := target.kind, authAddress := target.authAddress,
      baseSignatures := ["aa"], assemblyReceipt := "bb", signatureScheme := "ed25519" }
  | kind => { targetIndex := target.targetIndex, kind := kind, signature := "cc", signatureScheme := "ed25519" }

/-- Parties that answer every request with what it asks for. -/
def answers : (o : Op) → o.Ans
  | .keyInfo .. => .ok none
  | .newRequestId _ => some zeroRandom
  | .plan .. => .http 200 "OK" "" none (some { transactions := [paymentHex] })
  | .components _ req => .http 200 "OK" "" none
      (some { requestId := req.requestId, components := req.targets.map component })
  | .sign .. => .http 200 "OK" "" none (some {})
  | .assemble _ req => .http 200 "OK" "" none
      (some { requestId := req.requestId, signedGroup := [signedPaymentHex] })
  | .groupOrder groups => ⟨groups, .refl _⟩

def keyOf (flow : String) : KeyInfo where
  address := payer
  signingFlow := flow
  logicSigResources := some { default := some usage }
  boundedAuthorization := some { maxFee := 2000 }

def optionsFor (flow : String) : PreparedGuardedGroupOptions where
  userClient := some ⟨0⟩
  cosigner := { client := some ⟨1⟩, componentKey := "cosigner-key" }
  transactions := [{ transaction := some payment, authAddress := payer, signerKey := some (keyOf flow) }]

theorem runs_answers {α : Type} {p : Flow α} (h : Except.isOk (exec answers p) = true) :
    ∃ a, Runs p (traceOf answers p) (.ok a) := by
  have hrun := runs_traceOf answers p
  cases hp : exec answers p with
  | error e =>
    rw [hp] at h
    cases h
  | ok a => exact ⟨a, hp ▸ hrun⟩

end Demo

/-- A bounded-cosigner group that is returned signs the prepared group up to
reported mutations, with fees below what the keys advertise, in every SDK and
whatever the parties answered. -/
theorem boundedFlow_safe (env : Env) (hsdk : env.Faithful) (L : Language)
    (opts : PreparedGuardedGroupOptions) (t : Trace signer) (res : GuardedSignResult)
    (h : Runs (signPreparedBoundedCosignerGroup (L.dialect env) opts) t (.ok res)) :
    ∃ user requests reply plan originals final, ∃ keys : List KeyInfo,
      opts.userClient = some user ∧
      (⟨.plan user requests, reply⟩ : Exchange) ∈ t ∧ reply.okBody = some plan ∧
      opts.transactions.map (·.transaction) = originals.map some ∧
      SignsAs (L.dialect env).codec res.signedGroup final ∧
      SafeGroup env.toAlgoSdk ((L.dialect env).planView plan.mutations) originals final ∧
      keys.length = opts.transactions.length ∧
      ∀ (i : ℕ) item key p, opts.transactions[i]? = some item → keys[i]? = some key → final[i]? = some p →
        KeyOf user t item key ∧ (key.signingFlow = signingFlowBoundedCosigner1 →
          ∃ bounded, key.boundedAuthorization = some bounded ∧ (p.fee : ℤ) ≤ bounded.maxFee) := by
  have hl := L.lawful_dialect env
  rw [← L.dialect_sdk env] at hsdk ⊢
  obtain ⟨user, keys, slots, plan, planned, hplan, hsigns⟩ := bounded_ok hl hsdk h
  obtain ⟨reply, hsent, hbody⟩ := hplan.sent
  obtain ⟨hdecode, hvalid, hfees⟩ := checkBoundedPlan_ok hplan.checked
  refine ⟨user, _, reply, plan, slots.map (·.txn), planned, keys, hplan.client, hsent, hbody,
    hplan.sorted.transactions (fun _ => rfl) (fun hs => (sortBounded_ok hs).1), hsigns,
    safeGroup_of_plan hl hsdk hdecode hvalid, hplan.sorted.keys_length, fun i item key p hi hk hp => ?_⟩
  obtain ⟨slot, hs⟩ := hplan.sorted.of_item hi
  exact ⟨(hplan.sorted.each i item key slot hi hk hs).1, targetFee_le hplan.sorted hfees hk hp⟩

noncomputable def Demo.boundedFlow : Flow GuardedSignResult :=
  signPreparedBoundedCosignerGroup (Language.go.dialect Demo.env) (Demo.optionsFor signingFlowBoundedCosigner1)

theorem boundedFlow_safe_payment : ∃ res,
    Runs Demo.boundedFlow (traceOf Demo.answers Demo.boundedFlow) (.ok res) ∧
    ∃ originals final view, SignsAs (Go.codec Demo.env) res.signedGroup final ∧
      SafeGroup Demo.env.toAlgoSdk view originals final := by
  have hok : Except.isOk (exec Demo.answers Demo.boundedFlow) = true := by decide +kernel
  -- the flow stays a name, which nothing here evaluates
  generalize hflow : Demo.boundedFlow = flow at hok ⊢
  unfold Demo.boundedFlow at hflow
  obtain ⟨res, hrun⟩ := Demo.runs_answers hok
  obtain ⟨-, -, -, plan, originals, final, -, -, -, -, -, hsigns, hsafe, -⟩ :=
    boundedFlow_safe Demo.env Demo.faithful .go (Demo.optionsFor signingFlowBoundedCosigner1)
      (traceOf Demo.answers flow) res
      (by rw [hflow]; exact hrun)
  exact ⟨res, hrun, originals, final, _, hsigns, hsafe⟩

section Prepared

variable {d : Dialect} {opts : PreparedGuardedGroupOptions} {t : Trace signer}

theorem withKeys_transactions {found : List (Option KeyInfo)} {client : Option Client}
    (h : Runs (collect (preparedFlowKey d client) opts.transactions.zipIdx) t (.ok found)) :
    (withKeys d opts found).transactions.map (·.transaction) = opts.transactions.map (·.transaction) := by
  have hlen := (runs_collect_ok h).1
  rw [List.length_zipIdx] at hlen
  unfold withKeys
  split
  · have hzip := congrArg (List.map (·.transaction)) (List.map_fst_zip hlen.ge)
    rw [List.map_map] at hzip
    simpa [Function.comp_def] using hzip
  · rfl

end Prepared

/-- What `SignPreparedGuardedGroup` of Go returns, by either choreography,
signs the prepared group up to reported mutations, and has the length of the
plan. -/
theorem preparedFlow_safe (env : Env) (hsdk : env.Faithful) (opts : PreparedGuardedGroupOptions)
    (t : Trace signer) (res : GuardedSignResult)
    (h : Runs (signPreparedGuardedGroup (Go.dialect env) opts) t (.ok res)) :
    ∃ user requests reply plan originals final, opts.userClient = some user ∧
      (⟨.plan user requests, reply⟩ : Exchange) ∈ t ∧ reply.okBody = some plan ∧
      opts.transactions.map (·.transaction) = originals.map some ∧
      SignsAs (Go.codec env) res.signedGroup final ∧ final.length = plan.transactions.length ∧
      SafeGroup env.toAlgoSdk (Go.planView plan.mutations) originals final := by
  have hl := Go.lawful_dialect env
  obtain ⟨_, -, h⟩ := runs_lift_bind_ok.mp h
  obtain ⟨found, t₀, t₁, rfl, hfound, h⟩ := runs_bind_ok.mp h
  rw [← withKeys_transactions hfound]
  split at h
  · split at h
    · cases h.2
    · obtain ⟨user, keys, slots, plan, planned, hplan, hsigns⟩ := bounded_ok hl hsdk h
      obtain ⟨reply, hsent, hbody⟩ := hplan.sent
      obtain ⟨hdecode, hvalid, -⟩ := checkBoundedPlan_ok hplan.checked
      exact ⟨user, _, reply, plan, slots.map (·.txn), planned, withKeys_userClient ▸ hplan.client,
        List.mem_append_right _ hsent, hbody,
        hplan.sorted.transactions (fun _ => rfl) (fun hs => (sortBounded_ok hs).1), hsigns,
        (decodeCanonicalGroup_ok hl.codec hdecode).1.symm, safeGroup_of_plan hl hsdk hdecode hvalid⟩
  · obtain ⟨user, keys, slots, plan, planned, hplan, hsigns⟩ :=
      preparedGuarded_ok hl hsdk rfl hexDecode_hexEncode h
    obtain ⟨reply, hsent, hbody⟩ := hplan.sent
    obtain ⟨hdecode, hvalid⟩ := checkGuardedPlan_ok hplan.checked
    exact ⟨user, _, reply, plan, slots.map (·.txn), planned, withKeys_userClient ▸ hplan.client,
      List.mem_append_right _ hsent, hbody,
      hplan.sorted.transactions (fun _ => rfl) (fun hs => (sortGuarded_ok hs).1), hsigns,
      (decodeCanonicalGroup_ok hl.codec hdecode).1.symm, safeGroup_of_plan hl hsdk hdecode hvalid⟩

noncomputable def Demo.guardedFlow : Flow GuardedSignResult :=
  signPreparedGuardedGroup (Go.dialect Demo.env) (Demo.optionsFor signingFlowCosigner1)

theorem preparedFlow_safe_payment : ∃ res,
    Runs Demo.guardedFlow (traceOf Demo.answers Demo.guardedFlow) (.ok res) ∧
    ∃ originals final view, SignsAs (Go.codec Demo.env) res.signedGroup final ∧
      SafeGroup Demo.env.toAlgoSdk view originals final := by
  have hok : Except.isOk (exec Demo.answers Demo.guardedFlow) = true := by decide +kernel
  generalize hflow : Demo.guardedFlow = flow at hok ⊢
  unfold Demo.guardedFlow at hflow
  obtain ⟨res, hrun⟩ := Demo.runs_answers hok
  obtain ⟨-, -, -, plan, originals, final, -, -, -, -, hsigns, -, hsafe⟩ :=
    preparedFlow_safe Demo.env Demo.faithful (Demo.optionsFor signingFlowCosigner1)
      (traceOf Demo.answers flow) res
      (by rw [hflow]; exact hrun)
  exact ⟨res, hrun, originals, final, _, hsigns, hsafe⟩

end AplaneSdk
