/-
# What a position declares of its authorization

The planner, the base request and `/sign` size fees from what a request
declares of the positions it does not sign: LogicSig resources, or a
native-PQ scheme. `Selects` says which resources a key selects for a
transaction. In a bounded run a primary position declares the envelope of
its key to the planner and in the base request, a target declares its
selected resources at `/sign`, and a dummy those of a dummy; cosigners are
told of no envelope at all.

Key definitions: `Envelope`, `Selects`, `DeclaredBefore`, `DeclaredAtSign`.
Key theorems: `selectedPreparedResources_ok`, `envelopes_consistent`.
-/
import AplaneSdk.AppCalls

namespace AplaneSdk

open Checks Grouping Interaction Interaction.Prog

/-- What a position declares of its authorization. -/
structure Envelope where
  lsigResources : Option LogicSigResourceUsage := none
  pqScheme : String := ""

def SignRequest.envelope (r : SignRequest) : Envelope := ⟨r.lsigResources, r.pqScheme⟩

def ComponentContextPosition.envelope (p : ComponentContextPosition) : Envelope := ⟨p.lsigResources, p.pqScheme⟩

/-! ### The envelope of a key -/

/-- The resources a key selects for a transaction: none without a profile;
those of spending, else the default; and those of the rekey path where a
bounded key rekeys, which its first `rekey` operation names. -/
inductive Selects (key : KeyInfo) (txn : Txn) : Option LogicSigResourceUsage → Prop
  | noProfile (hprofile : key.logicSigResources = none) : Selects key txn none
  | spend {profile : LogicSigResourceProfile} (hprofile : key.logicSigResources = some profile)
      (hplain : key.boundedAuthorization = none ∨ txn.rekeyTo = none) :
      Selects key txn (profile.spend.or profile.default)
  | spendingRekey {profile : LogicSigResourceProfile} {bounded : BoundedAuthorizationInfo} {address : String}
      {operation : AdminOperation} (hprofile : key.logicSigResources = some profile)
      (hbounded : key.boundedAuthorization = some bounded) (hrekey : txn.rekeyTo = some address)
      (hoperation : bounded.adminOperations.find? (·.kind = "rekey") = some operation)
      (hauthorization : operation.authorization = "spending_key") : Selects key txn profile.spendingRekey
  | adminRekey {profile : LogicSigResourceProfile} {bounded : BoundedAuthorizationInfo} {address : String}
      {operation : AdminOperation} (hprofile : key.logicSigResources = some profile)
      (hbounded : key.boundedAuthorization = some bounded) (hrekey : txn.rekeyTo = some address)
      (hoperation : bounded.adminOperations.find? (·.kind = "rekey") = some operation)
      (hauthorization : operation.authorization = "admin_key") : Selects key txn profile.adminRekey

/-- The authorization the metadata names for a rekey. -/
theorem rekeyAuthorization_eq {bounded : BoundedAuthorizationInfo} (name : String) (hname : name ≠ "") :
    ((bounded.adminOperations.find? (·.kind = "rekey")).map (·.authorization)).getD "" = name ↔
      ∃ operation, bounded.adminOperations.find? (·.kind = "rekey") = some operation ∧
        operation.authorization = name := by
  cases bounded.adminOperations.find? (·.kind = "rekey") with
  | none =>
    constructor
    · intro h
      exact absurd h.symm hname
    · rintro ⟨_, h, -⟩
      cases h
  | some operation =>
    constructor
    · intro h
      exact ⟨operation, rfl, h⟩
    · rintro ⟨_, h, h'⟩
      cases h
      exact h'

/-- The code selects what `Selects` says, or fails. -/
theorem selectedPreparedResources_ok {unavailable : SdkError} {key : KeyInfo} {txn : Txn}
    {resources : Option LogicSigResourceUsage} :
    selectedPreparedResources unavailable key txn = .ok resources ↔ Selects key txn resources := by
  unfold selectedPreparedResources
  constructor
  · intro h
    split at h
    · cases h
      exact .noProfile ‹_›
    · rename_i profile hprofile
      dsimp only at h
      split at h
      · rename_i bounded address hbounded hrekey
        split at h
        · cases h
          obtain ⟨operation, hoperation, hauthorization⟩ :=
            (rekeyAuthorization_eq "spending_key" (by decide)).mp ‹_›
          exact .spendingRekey hprofile hbounded hrekey hoperation hauthorization
        · split at h
          · cases h
            obtain ⟨operation, hoperation, hauthorization⟩ :=
              (rekeyAuthorization_eq "admin_key" (by decide)).mp ‹_›
            exact .adminRekey hprofile hbounded hrekey hoperation hauthorization
          · cases h
      · rename_i hplain
        cases h
        refine .spend hprofile ?_
        cases hb : key.boundedAuthorization with
        | none => exact Or.inl rfl
        | some bounded =>
          cases ht : txn.rekeyTo with
          | none => exact Or.inr rfl
          | some address => exact (hplain bounded address hb ht).elim
  · intro h
    cases h with
    | noProfile hprofile => rw [hprofile]
    | spend hprofile hplain =>
      rw [hprofile]
      rcases hplain with hplain | hplain
      · rw [hplain]
      · rw [hplain]
        cases key.boundedAuthorization <;> rfl
    | spendingRekey hprofile hbounded hrekey hoperation hauthorization =>
      rw [hprofile, hbounded, hrekey]
      exact if_pos ((rekeyAuthorization_eq "spending_key" (by decide)).mpr ⟨_, hoperation, hauthorization⟩)
    | adminRekey hprofile hbounded hrekey hoperation hauthorization =>
      rw [hprofile, hbounded, hrekey]
      have hadmin := (rekeyAuthorization_eq "admin_key" (by decide)).mpr ⟨_, hoperation, hauthorization⟩
      dsimp only
      rw [hadmin]
      rfl

/-- The scheme a key declares. -/
def KeyInfo.pqScheme (key : KeyInfo) : String :=
  if key.authorizationKind = authorizationKindNativePq then pqSchemeFalcon1024 else ""

theorem preparedForeignPqScheme_ok {forbidden : SdkError} {key : KeyInfo}
    {resources : Option LogicSigResourceUsage} {scheme : String}
    (h : preparedForeignPqScheme forbidden key resources = .ok scheme) :
    scheme = key.pqScheme ∧ (scheme ≠ "" → resources = none) := by
  unfold preparedForeignPqScheme at h
  unfold KeyInfo.pqScheme
  by_cases hkind : key.authorizationKind = authorizationKindNativePq
  · rw [if_neg (not_not.mpr hkind)] at h
    split at h
    · cases h
    · rename_i hnone
      cases h
      exact ⟨(if_pos hkind).symm, fun _ => Option.not_isSome_iff_eq_none.mp hnone⟩
  · rw [if_pos hkind] at h
    cases h
    exact ⟨(if_neg hkind).symm, fun hne => absurd rfl hne⟩

theorem requireResources_ok {env : Env} {L : Language} {label : String}
    {resources : Option LogicSigResourceUsage} {required : LogicSigResourceUsage}
    (h : (L.dialect env).rules.requireResources label resources = .ok required) : resources = some required := by
  cases L with
  | go =>
    cases resources with
    | none => cases h
    | some r =>
      cases h
      rfl
  | python => exact (requireLsigResources_ok.mp h).1
  | typescript => exact (requireLsigResources_ok.mp h).1

/-! ### What a run declares -/

/-- The envelope of position `i` with the planner and in the base requests of
a run. -/
structure DeclaredBefore (t : Trace signer) (i : ℕ) (envelope : Envelope) : Prop where
  plan : ∀ client requests reply, (⟨.plan client requests, reply⟩ : Exchange) ∈ t →
    ∃ q, requests[i]? = some q ∧ q.envelope = envelope
  base : ∀ client req reply, (⟨.components client req, reply⟩ : Exchange) ∈ t →
    (∃ x ∈ req.targets, x.kind = .boundedBase) →
      (∃ p ∈ req.contextualPositions, p.targetIndex = i) ∧
        ∀ p ∈ req.contextualPositions, p.targetIndex = i → p.envelope = envelope

/-- The envelope of position `i` at `/sign`. -/
def DeclaredAtSign (t : Trace signer) (i : ℕ) (envelope : Envelope) : Prop :=
  ∀ client req reply, (⟨.sign client req, reply⟩ : Exchange) ∈ t →
    ∃ q, req.requests[i]? = some q ∧ q.envelope = envelope

/-- The positions from `n` on declare the resources of a dummy at `/sign`. -/
def DummiesDeclared (t : Trace signer) (n : ℕ) : Prop :=
  ∀ client req reply, (⟨.sign client req, reply⟩ : Exchange) ∈ t →
    ∀ (i : ℕ) q, n ≤ i → req.requests[i]? = some q →
      q.envelope = { lsigResources := some guardedDummyLogicSigResources }

/-- Cosigners are told of no envelope. -/
def CosignersUntold (t : Trace signer) : Prop :=
  ∀ client req reply, (⟨.components client req, reply⟩ : Exchange) ∈ t →
    (∃ x ∈ req.targets, x.kind = .cosigner) → ∀ p ∈ req.contextualPositions, p.envelope = {}

section Declared

variable {env : Env} {L : Language} {opts : PreparedGuardedGroupOptions} {t : Trace signer} {user : Client}
  {keys : List KeyInfo} {slots : List Slot} {plan : PlanGroupResponse} {planned : List Txn} {i : ℕ}
  {item : PreparedTransaction} {key : KeyInfo} {txn : Txn} {slot : Slot}

/-- The entry of a primary slot declares the envelope of its key. -/
theorem primary_envelope (h : sortBounded (L.dialect env).rules i item txn key = .ok slot)
    (hflow : key.signingFlow ≠ signingFlowBoundedCosigner1) :
    ∃ resources, Selects key txn resources ∧ (key.pqScheme ≠ "" → resources = none) ∧
      slot.request.envelope = ⟨resources, key.pqScheme⟩ := by
  obtain ⟨-, resources, hresources, ⟨hflow', -⟩ | ⟨-, hreq, -⟩⟩ := sortBounded_inv h
  · exact absurd hflow' hflow
  · obtain ⟨-, _, scheme, hscheme, hreq⟩ := foreignRequest_ok L hreq
    obtain ⟨rfl, hnone⟩ := preparedForeignPqScheme_ok hscheme
    refine ⟨resources, selectedPreparedResources_ok.mp hresources, hnone, ?_⟩
    rw [hreq]
    rfl

/-- A target keeps the resources its key selects. -/
theorem target_resources (h : sortBounded (L.dialect env).rules i item txn key = .ok slot)
    (hflow : key.signingFlow = signingFlowBoundedCosigner1) :
    ∃ resources target maxFee, Selects key txn resources ∧ slot.role = .cosigned target maxFee ∧
      target.logicSigResources = resources := by
  obtain ⟨-, resources, hresources, ⟨-, -, -, required, bounded, hrequired, -, hrole⟩ | ⟨hflow', -⟩⟩ :=
    sortBounded_inv h
  · exact ⟨resources, _, _, selectedPreparedResources_ok.mp hresources, hrole, (requireResources_ok hrequired).symm⟩
  · exact absurd hflow hflow'

/-- The entry of a primary slot, before it is signed. -/
theorem declaredBefore_of_slot (h : BoundedFrozen (L.dialect env) opts t user keys slots plan planned)
    (hsent : ∀ e ∈ t, exchangeKind e ∈ [.key, .plan] ∨
      BoundedSent (L.dialect env) user slots plan.transactions e)
    (hs : slots[i]? = some slot) {p : GuardedPrimarySignTarget} (hp : slot.primary? = some p) :
    DeclaredBefore t i slot.request.envelope where
  plan client requests reply he := by
    cases h.only _ he rfl
    exact ⟨slot.request, by rw [List.getElem?_map, hs]; rfl, rfl⟩
  base client req reply he hbase := by
    cases (hsent _ he).resolve_left not_key_or_plan with
    | base _ =>
      have hmem : (slot, i) ∈ slots.zipIdx := List.mem_zipIdx_iff_getElem?.mpr hs
      refine ⟨⟨_, List.mem_filterMap.mpr ⟨(slot, i), hmem, by rw [hp]; rfl⟩, rfl⟩, fun q hq hi => ?_⟩
      obtain ⟨⟨slot', j⟩, hj, hq⟩ := List.mem_filterMap.mp hq
      obtain ⟨_, -, rfl⟩ := Option.map_eq_some_iff.mp hq
      have hji : j = i := Int.ofNat_inj.mp hi
      rw [hji, List.mem_zipIdx_iff_getElem?, hs] at hj
      cases hj
      rfl
    | cosigner _ =>
      obtain ⟨x, hx, hkind⟩ := hbase
      rw [kind_componentRequestForIndices hx] at hkind
      cases hkind

/-- The entry of a position at `/sign`. -/
theorem getElem?_boundedEntries (d : Dialect) (group : List String) (slots : List Slot) :
    (group.zipIdx.map fun p => boundedEntry d slots p.2 p.1)[i]? = group[i]?.map (boundedEntry d slots i) := by
  rw [List.getElem?_map, List.getElem?_zipIdx, Option.map_map, Nat.zero_add]
  rfl

theorem declaredAtSign_of_slot (h : BoundedFrozen (L.dialect env) opts t user keys slots plan planned)
    (hsent : ∀ e ∈ t, exchangeKind e ∈ [.key, .plan] ∨
      BoundedSent (L.dialect env) user slots plan.transactions e)
    (hs : slots[i]? = some slot) {target : GuardedSignTarget} {maxFee : Option ℤ}
    (hrole : slot.role = .cosigned target maxFee) :
    DeclaredAtSign t i { lsigResources := target.logicSigResources } := by
  intro client req reply he
  obtain ⟨hplen, hle⟩ := h.bounded_lengths (L.lawful_dialect env)
  obtain ⟨hlt, -⟩ := List.getElem?_eq_some_iff.mp hs
  have hgroup := List.getElem?_eq_getElem (by omega : i < plan.transactions.length)
  cases (hsent _ he).resolve_left sign_not_key_or_plan with
  | sign =>
    refine ⟨boundedEntry (L.dialect env) slots i plan.transactions[i], ?_, ?_⟩
    · rw [getElem?_boundedEntries, hgroup]
      rfl
    · unfold boundedEntry
      rw [hs]
      dsimp only
      rw [hrole]
      rfl

theorem dummiesDeclared_of_run (hlen : slots.length = opts.transactions.length)
    (hsent : ∀ e ∈ t, exchangeKind e ∈ [.key, .plan] ∨
      BoundedSent (L.dialect env) user slots plan.transactions e) :
    DummiesDeclared t opts.transactions.length := by
  intro client req reply he i q hi hq
  cases (hsent _ he).resolve_left sign_not_key_or_plan with
  | sign =>
    rw [getElem?_boundedEntries, Option.map_eq_some_iff] at hq
    obtain ⟨txnHex, -, rfl⟩ := hq
    unfold boundedEntry
    rw [List.getElem?_eq_none (hlen ▸ hi)]
    rfl

theorem cosignersUntold_of_run (hsent : ∀ e ∈ t, exchangeKind e ∈ [.key, .plan] ∨
    BoundedSent (L.dialect env) user slots plan.transactions e) : CosignersUntold t := by
  intro client req reply he hcosigner p hp
  cases (hsent _ he).resolve_left not_key_or_plan with
  | base _ =>
    obtain ⟨x, hx, hkind⟩ := hcosigner
    obtain ⟨_, -, hx⟩ := List.mem_filterMap.mp hx
    obtain ⟨_, -, rfl⟩ := Option.map_eq_some_iff.mp hx
    cases hkind
  | cosigner _ =>
    obtain ⟨j, -, rfl⟩ := List.mem_map.mp hp
    rfl

end Declared

/-- **The declarations of a bounded run agree.** Once the plan is accepted,
every primary position declares to the planner and in the base request the
envelope of its key, which is never both resources and a scheme; every target
declares at `/sign` the resources selected for its key and transaction, and
every dummy those of a dummy. -/
theorem envelopes_consistent (env : Env) (L : Language) (opts : PreparedGuardedGroupOptions) (t : Trace signer)
    (r : Except SdkError GuardedSignResult) (h : Runs (signPreparedBoundedCosignerGroup (L.dialect env) opts) t r)
    (hplanned : ∃ e ∈ t, exchangeKind e ∉ [.key, .plan]) :
    ∃ user keys, KeysOf opts t user keys ∧ DummiesDeclared t opts.transactions.length ∧ CosignersUntold t ∧
      ∀ (i : ℕ) item key txn, opts.transactions[i]? = some item → keys[i]? = some key →
        item.transaction = some txn → ∃ resources, Selects key txn resources ∧
          (key.signingFlow ≠ signingFlowBoundedCosigner1 →
            (key.pqScheme ≠ "" → resources = none) ∧ DeclaredBefore t i ⟨resources, key.pqScheme⟩) ∧
          (key.signingFlow = signingFlowBoundedCosigner1 →
            DeclaredAtSign t i { lsigResources := resources }) := by
  rcases bounded_run (L.lawful_dialect env) h with hnone | ⟨user, keys, slots, plan, planned, hfrozen, hsent⟩
  · obtain ⟨e, he, hkind⟩ := hplanned
    exact absurd (hnone e he) hkind
  refine ⟨user, keys, hfrozen.keysOf, dummiesDeclared_of_run hfrozen.sorted.slots_length hsent,
    cosignersUntold_of_run hsent, fun i item key txn hi hk htxn => ?_⟩
  obtain ⟨slot, hs⟩ := hfrozen.sorted.of_item hi
  obtain ⟨-, prepared, txn', hprepared, hcopy, hsort⟩ := hfrozen.sorted.each i item key slot hi hk hs
  cases hcopy
  cases htxn.symm.trans hprepared
  by_cases hflow : key.signingFlow = signingFlowBoundedCosigner1
  · obtain ⟨resources, target, maxFee, hselects, hrole, hres⟩ := target_resources hsort hflow
    refine ⟨resources, hselects, fun hne => absurd hflow hne, fun _ => ?_⟩
    rw [← hres]
    exact declaredAtSign_of_slot hfrozen hsent hs hrole
  · obtain ⟨resources, hselects, hnone, henvelope⟩ := primary_envelope hsort hflow
    obtain ⟨p, hp, -⟩ := (sorts_sortBounded _).primary hsort hflow
    refine ⟨resources, hselects, fun _ => ⟨hnone, ?_⟩, fun heq => absurd heq hflow⟩
    rw [← henvelope]
    exact declaredBefore_of_slot hfrozen hsent hs hp

namespace Demo

/-- The payment of the pair declares at `/sign` what its key selects, and the
application call declares nothing anywhere. -/
theorem envelopes_consistent_pair :
    DeclaredAtSign (traceOf pairAnswers (pairFlow .go)) 0 { lsigResources := some usage } ∧
      DeclaredBefore (traceOf pairAnswers (pairFlow .go)) 1 {} := by
  have hany : (traceOf pairAnswers (pairFlow .go)).any isComponents = true := by decide +kernel
  generalize hflow : pairFlow .go = flow at hany ⊢
  unfold pairFlow at hflow
  have hplanned : ∃ e ∈ traceOf pairAnswers flow, exchangeKind e ∉ [.key, .plan] := by
    obtain ⟨⟨op, reply⟩, he, hop⟩ := List.any_eq_true.mp hany
    refine ⟨_, he, ?_⟩
    cases op with
    | components client req => exact not_key_or_plan
    | _ => cases hop
  obtain ⟨user, keys, hkeys, -, -, hall⟩ := envelopes_consistent pairEnv .go pairOptions (traceOf pairAnswers flow)
    (exec pairAnswers flow) (by rw [hflow]; exact runs_pairAnswers flow) hplanned
  have hkey : ∀ (i : ℕ) item key, pairOptions.transactions[i]? = some item → item.signerKey = some key →
      keys[i]? = some key := by
    intro i item key hi hsome
    obtain ⟨hlt, -⟩ := List.getElem?_eq_some_iff.mp hi
    have hk := List.getElem?_eq_getElem (hkeys.length ▸ hlt : i < keys.length)
    rw [hk]
    rcases hkeys.each i item _ hi hk with hof | ⟨hnone, -⟩
    · rw [← hof, hsome]
    · rw [hnone] at hsome
      cases hsome
  constructor
  · obtain ⟨resources, hselects, -, hsign⟩ := hall 0 _ _ groupedPayment rfl (hkey 0 _ _ rfl rfl) rfl
    have hok : selectedPreparedResources (Go.err "") _ _ = _ := selectedPreparedResources_ok.mpr hselects
    cases hok
    exact hsign rfl
  · obtain ⟨resources, hselects, hbefore, -⟩ := hall 1 _ _ groupedAppCall rfl (hkey 1 _ _ rfl rfl) rfl
    have hok : selectedPreparedResources (Go.err "") _ _ = _ := selectedPreparedResources_ok.mpr hselects
    cases hok
    exact (hbefore (by decide)).2

end Demo

end AplaneSdk
