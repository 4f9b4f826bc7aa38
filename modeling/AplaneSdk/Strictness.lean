/-
# Where the other SDKs are as strict as Go

The same inputs, given to the guarded choreography of another SDK and to that
of Go. What passes the checks of another SDK before it sends anything passes
those of Go too. `Answers` gives the responses by role: one for each account
of the user signer, for each cosigner with its component key, for the primary
signer and for the assembler; the order in which an SDK asks and the spelling
of its requests do not change what it is told.

Python and TypeScript return whatever the assembler sends, and TypeScript also
whatever the primary signer sends; `GoAccepts` is what is missing.

Key definitions: `Answers`, `Answers.oracle`, `SignatureOf`, `GoAccepts`.
Key theorems: `componentRequestOk_of`, `guardedPrelude_go`, `primaryEntries_go`.
-/
import AplaneSdk.EndToEnd

namespace AplaneSdk

open Checks Grouping Interaction Interaction.Prog

/-- The responses of all parties, by role. -/
structure Answers where
  keys : Client → String → Except SdkError (Option KeyInfo)
  ids : Purpose → Option { random : Bytes // random.length = 16 }
  plan : Client → Reply PlanGroupResponse
  components : Purpose → Reply ComponentResponse
  sign : Client → Reply GroupSignResponse
  assemble : Client → Reply AssemblyResponse
  order : (groups : List CosignerGroup) → { order : List CosignerGroup // order.Perm groups }

def Answers.oracle (R : Answers) : (o : Op) → o.Ans
  | .keyInfo client address => R.keys client address
  | .newRequestId purpose => R.ids purpose
  | .plan client _ => R.plan client
  | .components client req => R.components (req.purpose client)
  | .sign client _ => R.sign client
  | .assemble client _ => R.assemble client
  | .groupOrder groups => R.order groups

/-! ### Calls with given answers -/

section Calls

variable {calls : Calls} {client : Client} {R : Answers}

theorem exec_newRequestId_ok {name id : String} {purpose : Purpose} :
    exec R.oracle (newRequestId calls name purpose) = .ok id ↔
      ∃ bytes, R.ids purpose = some bytes ∧ id = newSignRequestId bytes.val := by
  have hids : R.oracle (.newRequestId purpose) = R.ids purpose := rfl
  rw [exec_newRequestId, hids]
  cases R.ids purpose with
  | none => simp
  | some bytes => simp [eq_comm]

/-- A component request without an id of its own. -/
theorem exec_requestComponents_ok {req : ComponentRequest} (hreq : req.requestId = "")
    {resp : ComponentResponse} :
    exec R.oracle (requestComponents calls client req) = .ok resp ↔
      ∃ bytes, R.ids (req.purpose client) = some bytes ∧
        calls.validateComponentRequest { req with requestId := newSignRequestId bytes.val } = .ok () ∧
        calls.acceptComponents { req with requestId := newSignRequestId bytes.val }
          (R.components (req.purpose client)) = .ok resp := by
  rw [requestComponents, exec_exchange_ok, fillRequestId, if_pos hreq]
  simp only [exec_newRequestId_ok, mapErr_ok]
  constructor
  · rintro ⟨_, ⟨bytes, hb, rfl⟩, hrest⟩
    exact ⟨bytes, hb, hrest⟩
  · rintro ⟨bytes, hb, hrest⟩
    exact ⟨_, ⟨bytes, hb, rfl⟩, hrest⟩

theorem exec_mapError_ok {α : Type} {f : (o : Op) → o.Ans} {p : Flow α} {wrap : SdkError → SdkError}
    {a : α} : exec f (p.mapError wrap) = .ok a ↔ exec f p = .ok a := by
  induction p with
  | done r => cases r <;> simp [mapError, exec]
  | ask o k ih => exact ih (f o)

end Calls

/-! ### Component requests -/

section Components

variable {d g : Dialect} {frame : ComponentFrame} {kind : ComponentTargetKind} {key : String}
  {indices : List ℤ} {client : Client}

/-- The target of one index. -/
def targetAt (d : Dialect) (frame : ComponentFrame) (kind : ComponentTargetKind) (key : String) (i : ℤ) :
    ComponentTarget where
  targetIndex := i
  kind := kind
  authAddress := if kind = .user then key else ""
  componentKey := if kind = .user then "" else key
  appCallInfo := d.targetInfo (frame.appCallInfo i)

theorem targets_componentRequestForIndices :
    (componentRequestForIndices d frame kind key indices).targets =
      indices.map (targetAt d frame kind key) := rfl

theorem purpose_componentRequestForIndices :
    (componentRequestForIndices d frame kind key indices).purpose client =
      (componentRequestForIndices g frame kind key indices).purpose client := by
  cases indices with
  | nil => rfl
  | cons i indices => rfl

/-- The targets of one index differ between the SDKs in their metadata only. -/
theorem targetKindOk_targetAt {hasArgs : Option (List (String × String)) → Bool} {k : ℕ} {i : ℤ}
    (hk : kind = .user ∨ kind = .cosigner)
    (h : TargetKindOk hasArgs (indices.map (targetAt d frame kind key)) k (targetAt d frame kind key i)) :
    TargetKindOk hasSomeArgs (indices.map (targetAt g frame kind key)) k (targetAt g frame kind key i) := by
  rcases hk with rfl | rfl
  · simpa [TargetKindOk, targetAt, Function.comp_def, hasSomeArgs] using
      (⟨h.1, h.2.1.1, h.2.2⟩ : _ ∧ _ ∧ _)
  · simpa [TargetKindOk, targetAt, Function.comp_def, hasSomeArgs] using
      (⟨h.1, h.2.2⟩ : _ ∧ _)

/-- A request that passes in one SDK passes in another that counts the
positions before the dummies alike. -/
theorem componentRequestOk_of {hasArgs : Option (List (String × String)) → Bool} {id : String}
    (hk : kind = .user ∨ kind = .cosigner)
    (hcount : frame.dummyPositions.length ≤ frame.groupBytesHex.length →
      d.originalCount frame.groupBytesHex.length frame.dummyPositions.length =
        g.originalCount frame.groupBytesHex.length frame.dummyPositions.length)
    (h : ComponentRequestOk hasArgs
      { componentRequestForIndices d frame kind key indices with requestId := id }) :
    ComponentRequestOk hasSomeArgs
      { componentRequestForIndices g frame kind key indices with requestId := id } := by
  have hcontext : (componentRequestForIndices d frame kind key indices).contextualPositions =
      (componentRequestForIndices g frame kind key indices).contextualPositions := by
    have hle := h.dummies_le
    simp only [componentRequestForIndices, List.length_map] at hle
    simp only [componentRequestForIndices, hcount hle]
  have hindices : (componentRequestForIndices d frame kind key indices).targets.map (·.targetIndex) =
      (componentRequestForIndices g frame kind key indices).targets.map (·.targetIndex) :=
    indices_componentRequestForIndices.trans indices_componentRequestForIndices.symm
  obtain ⟨hbytes, hne, hle, hrange, hnodup, hcover, hkinds, hcontexts, hsuffix⟩ := h
  simp only [hcontext, hindices] at hrange hnodup hcover hcontexts
  refine ⟨hbytes, ?_, hle, hrange, hnodup, hcover, fun k t ht => ?_, hcontexts, hsuffix⟩
  · simpa [targets_componentRequestForIndices] using hne
  · simp only [targets_componentRequestForIndices, List.getElem?_map, Option.map_eq_some_iff] at ht
    obtain ⟨i, hi, rfl⟩ := ht
    refine targetKindOk_targetAt hk (hkinds k (targetAt d frame kind key i) ?_)
    simp [targets_componentRequestForIndices, hi]

theorem componentsMatch_of {id : String} {resp : ComponentResponse}
    (h : ComponentsMatch { componentRequestForIndices d frame kind key indices with requestId := id } resp) :
    ComponentsMatch { componentRequestForIndices g frame kind key indices with requestId := id } resp where
  nodup := h.nodup
  asked c hc := by
    obtain ⟨t, ht, hi, hkind⟩ := h.asked c hc
    obtain ⟨i, hm, rfl⟩ := List.mem_map.mp ht
    exact ⟨targetAt g frame kind key i, List.mem_map_of_mem hm, hi, hkind⟩
  answered t ht := by
    obtain ⟨i, hm, rfl⟩ := List.mem_map.mp ht
    exact h.answered (targetAt d frame kind key i) (List.mem_map_of_mem hm)
  material := h.material

end Components

/-! ### The component phases -/

section Phases

variable {env : Env} {L : Language} {targets : List GuardedSignTarget} {responses : List ComponentResponse}

theorem userGroups_perm (d g : Dialect) (targets : List GuardedSignTarget) :
    (userGroups d targets).Perm (userGroups g targets) :=
  (List.perm_insertionSort _ _).trans (List.perm_insertionSort _ _).symm

theorem resolveGuardedCosigner_go {cosigner : CosignerOptions} {target : GuardedSignTarget}
    {r : Option Client × String} (h : resolveGuardedCosigner (L.dialect env) cosigner target = .ok r) :
    resolveGuardedCosigner (Go.dialect env) cosigner target = .ok r := by
  unfold resolveGuardedCosigner at h ⊢
  split at h
  · simp only [bind_eq_ok, failIf_ok, pure_eq_ok] at h ⊢
    obtain ⟨resolved, hres, _, -, rfl⟩ := h
    exact ⟨resolved, hres, (), by simp [Go.dialect], rfl⟩
  · split at h
    · cases h
    · exact h

theorem resolveAll_go {cosigner : CosignerOptions} {resolved : List ((Option Client × String) × ℤ)}
    (h : resolveAll (L.dialect env) cosigner targets = .ok resolved) :
    resolveAll (Go.dialect env) cosigner targets = .ok resolved := by
  obtain ⟨hlen, hall⟩ := mapEach_ok.mp h
  refine mapEach_ok.mpr ⟨hlen, fun j target y hj hy => ?_⟩
  obtain ⟨r, hr, he⟩ := bind_eq_ok.mp (hall j target y hj hy)
  exact bind_eq_ok.mpr ⟨r, resolveGuardedCosigner_go hr, he⟩

theorem signatureAt_perm {responses' : List ComponentResponse} (hp : responses'.Perm responses)
    (hn : ((signaturesOf responses).map Prod.fst).Nodup) (i : ℤ) :
    signatureAt responses' i = signatureAt responses i := by
  have hsig : (signaturesOf responses').Perm (signaturesOf responses) := hp.flatMap_right _
  have hn' := (hsig.map Prod.fst).nodup_iff.mpr hn
  have hmem : ∀ {rs : List ComponentResponse}, ((signaturesOf rs).map Prod.fst).Nodup → ∀ s,
      signatureAt rs i = some s ↔ (i, s) ∈ signaturesOf rs := by
    intro rs hrs s
    refine ⟨fun h => List.mem_reverse.mp (mem_of_lookup h), fun h => ?_⟩
    refine lookup_of_mem ?_ (List.mem_reverse.mpr h)
    rwa [List.map_reverse, List.nodup_reverse]
  refine Option.ext fun s => ?_
  rw [hmem hn', hmem hn, hsig.mem_iff]

end Phases

/-! ### The checks before anything is sent -/

section Checks

variable {env : Env} {L : Language} {opts : GuardedSignOptions}

theorem precheck_go (h : (L.dialect env).precheck opts = .ok ()) : (Go.dialect env).precheck opts = .ok () := by
  have hok : opts.targets ≠ [] ∧ GroupBytesOk opts.groupBytesHex := by
    cases L with
    | go =>
      simpa only [Language.dialect, Go.dialect, noTargets, seq_eq_ok, failIf_ok,
        validateComponentGroupBytes_ok] using h
    | python =>
      simpa only [Language.dialect, Python.dialect, noTargets, seq_eq_ok, failIf_ok,
        validateComponentGroupBytes_ok, and_comm] using h
    | typescript =>
      simpa only [Language.dialect, TypeScript.dialect, noTargets, seq_eq_ok, failIf_ok,
        validateComponentGroupBytes_ok] using h
  simpa only [Go.dialect, noTargets, seq_eq_ok, failIf_ok, validateComponentGroupBytes_ok] using hok

theorem Go.checkTargetResources_ok {i : ℤ} {resources : Option LogicSigResourceUsage} {u : Unit} :
    Go.checkTargetResources i resources = .ok u ↔ ∃ r, resources = some r ∧ r.inBounds := by
  cases resources with
  | none => simp [Go.checkTargetResources]
  | some r => simp [Go.checkTargetResources, Go.validateResources_ok]

theorem checkTargetResources_go {i : ℤ} {resources : Option LogicSigResourceUsage}
    (h : (L.dialect env).checkTargetResources i resources = .ok ()) :
    (Go.dialect env).checkTargetResources i resources = .ok () := by
  refine Go.checkTargetResources_ok.mpr ?_
  cases L with
  | go => exact Go.checkTargetResources_ok.mp h
  | python =>
    simp only [Language.dialect, Python.dialect, bind_eq_ok, requireLsigResources_ok, pure_eq_ok] at h
    obtain ⟨r, hr, -⟩ := h
    exact ⟨r, hr⟩
  | typescript =>
    simp only [Language.dialect, TypeScript.dialect, bind_eq_ok, requireLsigResources_ok, pure_eq_ok] at h
    obtain ⟨r, hr, -⟩ := h
    exact ⟨r, hr⟩

theorem checkPassthroughAuthorization_ok {err : String → SdkError} {words : String × String}
    {quote : String → String} {check : LogicSigResourceUsage → Except SdkError Unit}
    (hcheck : ∀ r, check r = .ok () ↔ r.inBounds) {i : ℤ} {a : GuardedPassthroughAuthorization} {u : Unit} :
    checkPassthroughAuthorization err words quote check i a = .ok u ↔
      ¬ (a.pqScheme ≠ "" ∧ a.logicSigResources.isSome) ∧
        ¬ (a.pqScheme ≠ "" ∧ a.pqScheme ≠ pqSchemeFalcon1024) ∧
        ∀ r, a.logicSigResources = some r → r.inBounds := by
  simp only [checkPassthroughAuthorization, seq_eq_ok, failIf_ok, checkSome_ok, hcheck]

theorem checkAuthorization_go {i : ℤ} {a : GuardedPassthroughAuthorization}
    (h : (L.dialect env).checkAuthorization i a = .ok ()) :
    (Go.dialect env).checkAuthorization i a = .ok () := by
  refine (checkPassthroughAuthorization_ok fun _ => by rw [mapErr_ok, Go.validateResources_ok]).mpr ?_
  cases L with
  | go => exact (checkPassthroughAuthorization_ok fun _ => by rw [mapErr_ok, Go.validateResources_ok]).mp h
  | python => exact (checkPassthroughAuthorization_ok fun _ => validateLsigResources_ok).mp h
  | typescript => exact (checkPassthroughAuthorization_ok fun _ => validateLsigResources_ok).mp h

theorem guardedPrelude_go {out : Client × List GuardedSignTarget}
    (h : guardedPrelude (L.dialect env) opts = .ok out) : guardedPrelude (Go.dialect env) opts = .ok out := by
  simp only [guardedPrelude, bind_eq_ok (α := Client), bind_eq_ok (α := List ℤ), seq_eq_ok,
    pure_eq_ok] at h ⊢
  obtain ⟨user, huser, hpre, claimed, hclaim, rfl⟩ := h
  refine ⟨user, ?_, precheck_go hpre, claimed, claimAll_imp hclaim fun j c x _ hx => ?_, rfl⟩
  · rw [requireUser_ok huser]
    rfl
  · simp only [checkGuardedTarget, seq_eq_ok, failIf_ok] at hx ⊢
    exact ⟨hx.1, hx.2.1, hx.2.2.1, checkTargetResources_go hx.2.2.2⟩

/-- Two entries that the checks of `/sign` cannot tell apart. -/
structure SameEntry (r r' : SignRequest) : Prop where
  authAddress : r.authAddress = r'.authAddress
  txnBytesHex : r.txnBytesHex = r'.txnBytesHex
  signedTxnHex : r.signedTxnHex = r'.signedTxnHex
  lsigResources : r.lsigResources = r'.lsigResources
  pqScheme : r.pqScheme = r'.pqScheme

theorem sameEntry_primaryRequest (env : Env) (L : Language) (txnHex : String)
    (target : GuardedPrimarySignTarget) :
    SameEntry ((L.dialect env).primaryRequest txnHex target) ((Go.dialect env).primaryRequest txnHex target) := by
  cases L <;> exact ⟨rfl, rfl, rfl, rfl, rfl⟩

theorem primaryEntries_go {group : List String} {targets : List GuardedSignTarget}
    {primaries : List GuardedPrimarySignTarget} {passthrough : List AssemblyPassthroughItem}
    {requests : List SignRequest}
    (h : primaryEntries (L.dialect env) group targets primaries passthrough = .ok requests) :
    ∃ requests', primaryEntries (Go.dialect env) group targets primaries passthrough = .ok requests' ∧
      List.Forall₂ SameEntry requests requests' := by
  simp only [primaryEntries, bind_eq_ok] at h ⊢
  obtain ⟨primary, hprimary, claimed, hclaimed, hentries⟩ := h
  have hentry : ∀ k x y, primaryEntry (L.dialect env) targets primaries passthrough k x = .ok y →
      ∃ y', primaryEntry (Go.dialect env) targets primaries passthrough k x = .ok y' ∧ SameEntry y y' := by
    intro k x y hy
    unfold primaryEntry at hy ⊢
    split at hy
    · cases hy
      exact ⟨_, rfl, sameEntry_primaryRequest env L _ _⟩
    · split at hy
      · cases hy
        exact ⟨_, rfl, rfl, rfl, rfl, rfl, rfl⟩
      · split at hy
        · cases hy
          exact ⟨_, rfl, rfl, rfl, rfl, rfl, rfl⟩
        · cases hy
  obtain ⟨requests', hgo, hsame⟩ := mapEach_sim hentry hentries
  refine ⟨requests', ⟨primary, claimAll_imp hprimary fun j c x _ hx => ?_, claimed,
    claimAll_imp hclaimed fun j c x _ hx => ?_, hgo⟩, hsame⟩
  · simpa only [checkPrimaryTarget, seq_eq_ok, failIf_ok] using hx
  · simp only [checkPassthroughItem, seq_eq_ok, failIf_ok] at hx ⊢
    obtain ⟨h1, h2, h3, h4, h5⟩ := hx
    refine ⟨h1, h2, h3, h4, ?_⟩
    cases hauth : x.authorization with
    | none =>
      rw [hauth] at h5
      cases h5
    | some authorization =>
      rw [hauth] at h5
      exact checkAuthorization_go h5

end Checks

/-! ### The primary signer -/

section Primary

variable {env : Env} {L : Language} {R : Answers} {user : Client}

theorem SameEntry.mode {r r' : SignRequest} (h : SameEntry r r') (err : String → SdkError) :
    signRequestMode err r = signRequestMode err r' := by
  rw [signRequestMode, signRequestMode, h.authAddress, h.txnBytesHex, h.signedTxnHex]

theorem SameEntry.entryOk {r r' : SignRequest} (h : SameEntry r r') {mode : RequestMode} :
    EntryOk r mode ↔ EntryOk r' mode := by
  rw [EntryOk, EntryOk, h.lsigResources, h.pqScheme]

theorem SameEntry.isForeign {r r' : SignRequest} (h : SameEntry r r') : r.isForeign = r'.isForeign := by
  rw [SignRequest.isForeign, SignRequest.isForeign, h.authAddress, h.txnBytesHex, h.signedTxnHex]

theorem EntriesOk.same {requests requests' : List SignRequest} (hok : EntriesOk requests)
    (h : List.Forall₂ SameEntry requests requests') : EntriesOk requests' := by
  obtain ⟨hne, modes, hmodes, hmix⟩ := hok
  refine ⟨fun hnil => hne ?_, modes, ?_, hmix⟩
  · rw [hnil] at h
    exact List.forall₂_nil_right_iff.mp h
  · refine List.forall₂_iff_get.mpr ⟨h.length_eq.symm.trans hmodes.length_eq, fun i h₁ h₂ => ?_⟩
    have hi : i < requests.length := h.length_eq ▸ h₁
    have hsame := (List.forall₂_iff_get.mp h).2 i hi h₁
    obtain ⟨hmode, hentry⟩ := (List.forall₂_iff_get.mp hmodes).2 i hi h₂
    exact ⟨hsame.mode _ ▸ hmode, hsame.entryOk.mp hentry⟩

theorem SignedOk.same {requests requests' : List SignRequest} {signed : List String}
    (hok : SignedOk noText requests signed) (h : List.Forall₂ SameEntry requests requests') :
    SignedOk noText requests' signed := by
  obtain ⟨hlen, hslots, hrest⟩ := hok
  rw [h.length_eq] at hlen hrest
  refine ⟨hlen, fun j r' hj hforeign => ?_, hrest⟩
  obtain ⟨h₂, rfl⟩ := List.getElem?_eq_some_iff.mp hj
  have h₁ : j < requests.length := h.length_eq ▸ h₂
  have hsame := (List.forall₂_iff_get.mp h).2 j h₁ h₂
  exact hslots j _ (List.getElem?_eq_getElem h₁) (hsame.isForeign.trans hforeign)

theorem validateGroupSignRequest_entries {req : GroupSignRequest}
    (h : (L.dialect env).calls.validateGroupSignRequest req = .ok ()) : EntriesOk req.requests := by
  cases L with
  | go =>
    simp only [Language.dialect, Go.dialect, Go.calls, Go.validateGroupSignRequest, seq_eq_ok] at h
    exact (validateSignEntries_ok fun _ => by rw [mapErr_ok, Go.validateResources_ok]).mp h.2
  | python =>
    simp only [Language.dialect, Python.dialect, Python.calls, Python.validateGroupSignRequest,
      seq_eq_ok] at h
    exact (validateSignEntries_ok fun _ => validateLsigResources_ok).mp h.2.2
  | typescript =>
    simp only [Language.dialect, TypeScript.dialect, TypeScript.calls,
      TypeScript.validateGroupSignRequest, seq_eq_ok] at h
    exact (validateSignEntries_ok fun _ => validateLsigResources_ok).mp h.2.2

theorem exec_signGroup_ok {calls : Calls} {requests : List SignRequest} {resp : GroupSignResponse} :
    exec R.oracle (signGroup calls user requests) = .ok resp ↔ ∃ bytes, R.ids .sign = some bytes ∧
      calls.validateGroupSignRequest ⟨newSignRequestId bytes.val, requests⟩ = .ok () ∧
      calls.acceptSign ⟨newSignRequestId bytes.val, requests⟩ (R.sign user) = .ok resp := by
  rw [signGroup, exec_exchange_ok]
  simp only [exec_newRequestId_ok]
  constructor
  · rintro ⟨_, ⟨bytes, hb, rfl⟩, hrest⟩
    exact ⟨bytes, hb, hrest⟩
  · rintro ⟨bytes, hb, hrest⟩
    exact ⟨_, ⟨bytes, hb, rfl⟩, hrest⟩

/-- The signed transaction `signedHex` is a signature of the transaction whose
canonical bytes are `canonicalHex`, as Go reads the two. -/
def SignatureOf (env : Env) (signedHex canonicalHex : String) : Prop :=
  ∃ t, (Go.codec env).inner signedHex = some t ∧ hexDecode canonicalHex = some (env.encodeTxn t)

/-- The primary signer signed what it was asked to, with a report Go can read. -/
structure PrimaryVerified (env : Env) (group : List String) (primaries : List GuardedPrimarySignTarget)
    (resp : GroupSignResponse) : Prop where
  report : Go.decodeMutations resp.mutations ≠ none
  signed : ∀ p ∈ primaries, SignatureOf env (resp.signed.getD p.targetIndex.toNat "")
    (group.getD p.targetIndex.toNat "")

end Primary

/-! ### The assembler -/

section Assembly

variable {env : Env} {R : Answers} {client : Client}

/-- The id of a request, where the caller's choice is `id`. -/
def Answers.idFor (R : Answers) (purpose : Purpose) (id : String) : Option String :=
  if id = "" then (R.ids purpose).map fun bytes => newSignRequestId bytes.val else some id

theorem exec_fillRequestId_ok {calls : Calls} {name id out : String} {purpose : Purpose} :
    exec R.oracle (fillRequestId calls name purpose id) = .ok out ↔ R.idFor purpose id = some out := by
  unfold fillRequestId Answers.idFor
  split
  · rw [exec_newRequestId_ok, Option.map_eq_some_iff]
    exact exists_congr fun _ => and_congr_right fun _ => eq_comm
  · simp

theorem Answers.idFor_valid {purpose : Purpose} {id out : String} (h : R.idFor purpose id = some out) :
    ValidRequestId out ↔ ValidRequestId id := by
  unfold Answers.idFor at h
  split at h
  · rename_i hempty
    obtain ⟨bytes, -, rfl⟩ := Option.map_eq_some_iff.mp h
    rw [hempty]
    exact iff_of_true (validRequestId_newSignRequestId bytes.property) validRequestId_empty
  · cases h
    rfl

theorem exec_requestAssemble_ok {calls : Calls} {req : AssemblyRequest} {resp : AssemblyResponse} :
    exec R.oracle (requestAssemble calls client req) = .ok resp ↔ ∃ id,
      R.idFor .assemble req.requestId = some id ∧ calls.validateAssemblyRequest (req.sent id) = .ok () ∧
        calls.acceptAssembly (req.sent id) (R.assemble client) = .ok resp := by
  rw [requestAssemble, exec_exchange_ok]
  simp only [exec_fillRequestId_ok, mapErr_ok]
  rfl

/-- A run with the oracle's answers, as a run of the choreography. -/
theorem runs_of_exec {α : Type} {p : Flow α} {a : α} (h : exec R.oracle p = .ok a) :
    Runs p (traceOf R.oracle p) (.ok a) := h ▸ runs_traceOf R.oracle p

/-- The assembled group signs the submitted one, position by position. -/
def AssembledVerified (env : Env) (group : List String) (resp : AssemblyResponse) : Prop :=
  resp.signedGroup.length = group.length ∧ ∀ (i : ℕ) s c, resp.signedGroup[i]? = some s →
    group[i]? = some c → SignatureOf env s c

theorem verifyAssembledGroup_go {group : List String} {resp : AssemblyResponse} {u : Unit} :
    verifyAssembledGroup (Go.dialect env).matchesCanonical group resp.signedGroup = .ok u ↔
      AssembledVerified env group resp := by
  rw [verifyAssembledGroup_ok]
  refine and_congr_right fun _ => forall₅_congr fun i s c _ _ => ?_
  exact Go.signedTxnMatchesCanonical_ok

end Assembly

/-- What Go asks of the responses beyond what another SDK asks: a valid id for
the assembly, signatures of the requested transactions from the primary
signer, and an assembled group that is the submitted one. -/
structure GoAccepts (env : Env) (R : Answers) (opts : GuardedSignOptions) : Prop where
  requestId : ValidRequestId opts.assemblyRequestId
  primary : opts.primaryTargets ≠ [] → ∀ user resp, opts.userClient = some user →
    (R.sign user).okBody = some resp → PrimaryVerified env opts.groupBytesHex opts.primaryTargets resp
  assembled : ∀ user resp, opts.userClient = some user → (R.assemble user).okBody = some resp →
    AssembledVerified env opts.groupBytesHex resp

end AplaneSdk
