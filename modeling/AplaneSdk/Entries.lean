/-
# The entries of an application, and the closing each of them reaches

An `Entry` is one of the calls an application makes. `Entry.Signs` says which
group it signs, from its options or from the keys the run found, and `Stage`
what a run has behind it when it reaches its closing, whichever choreography
it took: from here on the two need no distinction but the kind of component
the user signer gives.

Key definitions: `Entry`, `Group`, `Entry.Signs`, `UserMaterial`, `Stage`.
Key theorems: `entry_stage`.
-/
import AplaneSdk.Stages

namespace AplaneSdk

open Checks Grouping Interaction Interaction.Prog

/-- The calls that run a choreography. -/
inductive Entry
  | guarded (opts : GuardedSignOptions)
  | bounded (opts : PreparedGuardedGroupOptions)
  /-- The call that chooses between the two by the keys of the slots. -/
  | prepared (opts : PreparedGuardedGroupOptions)

def Entry.flow (d : Dialect) : Entry → Flow GuardedSignResult
  | guarded opts => signGuardedGroup d opts
  | bounded opts => signPreparedBoundedCosignerGroup d opts
  | prepared opts => signPreparedGuardedGroup d opts

def Entry.cosigner : Entry → CosignerOptions
  | guarded opts => opts.cosigner
  | bounded opts => opts.cosigner
  | prepared opts => opts.cosigner

/-- The parts of a group: the targets of the user signer and the cosigners,
with the kind of the user signer's component, and the primary positions. -/
structure Group where
  user : Client
  kind : ComponentTargetKind
  targets : List GuardedSignTarget
  primaries : List ℤ

/-- `group` is made of the prepared transactions: those with a key of the flow
`flow` are targets, and the others are primary. -/
structure SignsPrepared (flow : String) (kind : ComponentTargetKind) (opts : PreparedGuardedGroupOptions)
    (t : Trace signer) (group : Group) : Prop where
  client : opts.userClient = some group.user
  kind_eq : group.kind = kind
  keys : ∃ keys : List KeyInfo, keys.length = opts.transactions.length ∧
    ∀ (i : ℕ) item key, opts.transactions[i]? = some item → keys[i]? = some key →
      KeyOf group.user t item key ∧
      (key.signingFlow = flow → ∃ target ∈ group.targets,
        target.targetIndex = i ∧ target.guardedAccount = item.authAddress) ∧
      (key.signingFlow ≠ flow → (i : ℤ) ∈ group.primaries)

/-- The group an entry signs, with the keys found in `t`. -/
def Entry.Signs : Entry → Trace signer → Group → Prop
  | guarded opts, _, group => opts.userClient = some group.user ∧ group.kind = .user ∧
      group.targets.Perm opts.targets ∧ group.primaries = opts.primaryTargets.map (·.targetIndex)
  | bounded opts, t, group => SignsPrepared signingFlowBoundedCosigner1 .boundedBase opts t group
  | prepared opts, t, group => SignsPrepared signingFlowBoundedCosigner1 .boundedBase opts t group ∨
      SignsPrepared signingFlowCosigner1 .user opts t group

theorem SignsPrepared.mono {flow : String} {kind : ComponentTargetKind}
    {opts : PreparedGuardedGroupOptions} {t t' : Trace signer} {group : Group}
    (h : SignsPrepared flow kind opts t group) (ht : t ⊆ t') : SignsPrepared flow kind opts t' group :=
  let ⟨hclient, hkind, keys, hlen, hkeys⟩ := h
  ⟨hclient, hkind, keys, hlen, fun i item key hi hk =>
    let ⟨hof, hrest⟩ := hkeys i item key hi hk
    ⟨hof.mono ht, hrest⟩⟩

theorem Entry.Signs.mono {entry : Entry} {t t' : Trace signer} {group : Group} (h : entry.Signs t group)
    (ht : t ⊆ t') : entry.Signs t' group := by
  cases entry with
  | guarded opts => exact h
  | bounded opts => exact SignsPrepared.mono h ht
  | prepared opts => exact h.imp (·.mono ht) (·.mono ht)

/-- The user signer is asked for a target, with its account where the request
is one for accounts. -/
def Group.Owns (group : Group) (target : GuardedSignTarget) (a : Asking) (x : ComponentTarget) : Prop :=
  a.client = group.user ∧ (group.kind = .user → x.authAddress = target.guardedAccount)

/-! ### The material of an assembly target -/

/-- What an assembly target holds of the user signer. -/
structure UserMaterial where
  userSignature : String := ""
  userSourceRequestId : String := ""
  baseSignatures : List String := []
  boundedRuntimeArgs : Option (List (String × String)) := none
  assemblyReceipt : String := ""
  baseSourceRequestId : String := ""

def AssemblyTarget.userMaterial (target : AssemblyTarget) : UserMaterial where
  userSignature := target.userSignature
  userSourceRequestId := target.userSourceRequestId
  baseSignatures := target.baseSignatures
  boundedRuntimeArgs := target.boundedRuntimeArgs
  assemblyReceipt := target.assemblyReceipt
  baseSourceRequestId := target.baseSourceRequestId

/-- What an assembly target holds of a cosigner. -/
def AssemblyTarget.cosignerMaterial (target : AssemblyTarget) : String × String :=
  (target.cosignerSignature, target.cosignerSourceRequestId)

/-- The material of component `c` of the response to the request `id`: a
signature, or the base signatures with their receipt. -/
def userMaterialOf (d : Dialect) (kind : ComponentTargetKind) (c : Component) (id : String) : UserMaterial :=
  if kind = .user then { userSignature := c.signature, userSourceRequestId := id }
  else
    { baseSignatures := c.baseSignatures
      boundedRuntimeArgs := d.runtimeArgs c.runtimeArgs
      assemblyReceipt := c.assemblyReceipt
      baseSourceRequestId := id }

def cosignerMaterialOf (c : Component) (id : String) : String × String := (c.signature, id)

/-- `material` comes from a component for position `i` of one of the responses. -/
def From {M : Type} (of : Component → String → M) (responses : List ComponentResponse) (i : ℤ)
    (material : M) : Prop :=
  ∃ resp ∈ responses, ∃ c ∈ resp.components, c.targetIndex = i ∧ material = of c resp.requestId

theorem signatureAt_from {responses : List ComponentResponse} {i : ℤ} {s : ComponentSignature}
    (h : signatureAt responses i = some s) :
    ∃ resp ∈ responses, ∃ c ∈ resp.components, c.targetIndex = i ∧ s = ⟨c.signature, resp.requestId⟩ := by
  have hmem := List.mem_reverse.mp (mem_of_lookup h)
  obtain ⟨resp, hr, hc⟩ := List.mem_flatMap.mp hmem
  obtain ⟨c, hc, he⟩ := List.mem_map.mp hc
  obtain ⟨hi, hs⟩ := Prod.mk.inj he
  exact ⟨resp, hr, c, hc, hi, hs.symm⟩

section Material

variable {d : Dialect} {responses cosigned : List ComponentResponse} {target : GuardedSignTarget}
  {out : AssemblyTarget}

theorem guardedAssemblyTarget_ok (h : guardedAssemblyTarget responses cosigned target = .ok out) :
    out.targetIndex = target.targetIndex ∧
      From (userMaterialOf d .user) responses target.targetIndex out.userMaterial ∧
      From cosignerMaterialOf cosigned target.targetIndex out.cosignerMaterial := by
  unfold guardedAssemblyTarget at h
  split at h
  · cases h
  · rename_i u hu
    split at h
    · cases h
    · rename_i c hc
      cases h
      obtain ⟨resp, hr, x, hx, hi, rfl⟩ := signatureAt_from hu
      obtain ⟨resp', hr', x', hx', hi', rfl⟩ := signatureAt_from hc
      exact ⟨rfl, ⟨resp, hr, x, hx, hi, rfl⟩, ⟨resp', hr', x', hx', hi', rfl⟩⟩

theorem boundedAssemblyTarget_ok {base : ComponentResponse}
    (h : boundedAssemblyTarget d base cosigned target = .ok out) :
    out.targetIndex = target.targetIndex ∧
      From (userMaterialOf d .boundedBase) [base] target.targetIndex out.userMaterial ∧
      From cosignerMaterialOf cosigned target.targetIndex out.cosignerMaterial := by
  unfold boundedAssemblyTarget at h
  split at h
  · cases h
  · rename_i x hx
    split at h
    · cases h
    · rename_i c hc
      cases h
      obtain ⟨resp', hr', x', hx', hi', rfl⟩ := signatureAt_from hc
      refine ⟨rfl, ⟨base, List.mem_singleton_self _, x, List.mem_of_find?_eq_some hx, ?_, rfl⟩,
        ⟨resp', hr', x', hx', hi', rfl⟩⟩
      simpa using List.find?_some hx

end Material

/-! ### The closing of an entry -/

/-- A run of an entry at its closing: the user side of the group is in `u`,
and the material of the assembly comes from the responses to it. -/
structure Stage (d : Dialect) (cosigner : CosignerOptions) (group : Group) (u : Trace signer) (c : Closing)
    (responses : List ComponentResponse) (asks : List Asking) (items : List AssemblyPassthroughItem) :
    Prop where
  side : Side d.calls group.kind group.Owns group.targets u responses asks
  notCosigner : group.kind ≠ .cosigner
  primary : PrimarySide d.calls group.user group.primaries u items
  nodup : (group.targets.map (·.targetIndex)).Nodup
  user : c.user = group.user
  cosigner_eq : c.cosigner = cosigner
  targets : c.targets = group.targets
  material : ∀ {cosigned m}, c.material cosigned = .ok m → items ⊆ m.2 ∧
    m.1.map (·.targetIndex) = group.targets.map (·.targetIndex) ∧
    ∀ T ∈ m.1, From (userMaterialOf d group.kind) responses T.targetIndex T.userMaterial ∧
      From cosignerMaterialOf cosigned T.targetIndex T.cosignerMaterial

section EntryStage

variable {d : Dialect} {user : Client} {t u pre post : Trace signer} {e : Exchange}
  {r : Except SdkError GuardedSignResult} {opts : PreparedGuardedGroupOptions}

/-- What a run did before it came to a choreography does not disturb it. -/
theorem Stage.prepend {cosigner : CosignerOptions} {group : Group} {c : Closing}
    {responses : List ComponentResponse} {asks : List Asking} {items : List AssemblyPassthroughItem}
    (h : Stage d cosigner group u c responses asks items) (ht : ∀ e ∈ t, exchangeKind e ∈ [.key, .plan]) :
    Stage d cosigner group (t ++ u) c responses asks items where
  side := h.side.extend (List.subset_append_right ..) <| by
    simpa using isComponents_mem t u [] _ [] ht (by simp) (by decide) (by decide)
  notCosigner := h.notCosigner
  primary := h.primary.extend (List.subset_append_right ..) fun e he hkind =>
    (List.mem_append.mp he).resolve_left fun hpre => kind_ne ht (by decide) hpre hkind
  nodup := h.nodup
  user := h.user
  cosigner_eq := h.cosigner_eq
  targets := h.targets
  material := h.material

theorem guarded_entry (hl : d.Lawful) {opts : GuardedSignOptions}
    (h : Runs (signGuardedGroup d opts) (pre ++ e :: post) r) (he : Closes e) :
    ∃ group u c responses asks items pre' r', (Entry.guarded opts).Signs u group ∧ pre = u ++ pre' ∧
      Stage d opts.cosigner group u c responses asks items ∧
      Runs (cosignAndAssemble d c) (pre' ++ e :: post) r' := by
  obtain ⟨user, targets, responses, asks, items, u, pre', r', hprelude, rfl, hside, hprimary, hclosing⟩ :=
    guarded_stage hl h he
  obtain ⟨huser, hsorted, hnodup⟩ := guardedPrelude_ok hprelude
  refine ⟨⟨user, .user, targets, opts.primaryTargets.map (·.targetIndex)⟩, u, _, responses, asks, items,
    pre', r', ⟨huser, rfl, ?_, rfl⟩, rfl, ?_, hclosing⟩
  · exact hsorted ▸ List.perm_insertionSort _ _
  · refine ⟨hside.imp fun _ _ _ hb => ⟨hb.1, fun _ => hb.2⟩, by simp, hprimary, hnodup, rfl, rfl, rfl, ?_⟩
    intro cosigned m hm
    obtain ⟨targets', htargets, hout⟩ := bind_eq_ok.mp hm
    cases hout
    exact ⟨List.subset_append_right .., mapEach_index
      (P := fun T => From (userMaterialOf d .user) responses T.targetIndex T.userMaterial ∧
        From cosignerMaterialOf cosigned T.targetIndex T.cosignerMaterial)
      (fun target T hT =>
        let ⟨hi, hrest⟩ := guardedAssemblyTarget_ok (d := d) hT
        ⟨hi, hi ▸ hrest⟩) htargets⟩

/-- The group of slots sorted by the flow `flow`. -/
theorem SlotsOf.signs {copy : Txn → Except SdkError Txn} {sort : SortSlot} {flow : String}
    {keys : List KeyInfo} {slots : List Slot} (kind : ComponentTargetKind)
    {targets : List GuardedSignTarget} (hclient : opts.userClient = some user)
    (h : SlotsOf copy sort user t opts.transactions keys slots) (hsorts : Sorts flow sort)
    (hperm : targets.Perm (slots.filterMap Slot.target?)) :
    SignsPrepared flow kind opts t
      ⟨user, kind, targets, (slots.filterMap Slot.primary?).map (·.targetIndex)⟩ := by
  refine ⟨hclient, rfl, keys, h.keys_length, fun i item key hi hk => ⟨?_, fun hflow => ?_, fun hflow => ?_⟩⟩
  · obtain ⟨slot, hs⟩ := h.of_item hi
    exact (h.each i item key slot hi hk hs).1
  · obtain ⟨target, ht, hrest⟩ := h.mem_targets hsorts hi hk hflow
    exact ⟨target, hperm.mem_iff.mpr ht, hrest⟩
  · exact h.mem_primaries hsorts hi hk hflow

theorem bounded_entry (hl : d.Lawful)
    (h : Runs (signPreparedBoundedCosignerGroup d opts) (pre ++ e :: post) r) (he : Closes e) :
    ∃ group u c responses asks items pre' r', (Entry.bounded opts).Signs u group ∧ pre = u ++ pre' ∧
      Stage d opts.cosigner group u c responses asks items ∧
      Runs (cosignAndAssemble d c) (pre' ++ e :: post) r' := by
  obtain ⟨user, keys, slots, plan, planned, base, asks, items, u, pre', r', hplan, rfl, hside, hprimary,
    hclosing⟩ := bounded_stage hl h he
  have hsorts := sorts_sortBounded d.rules
  refine ⟨_, u, _, [base], asks, items, pre', r',
    hplan.sorted.signs .boundedBase hplan.client hsorts (List.Perm.refl _), rfl, ?_, hclosing⟩
  refine ⟨hside.imp fun _ _ _ hb => ⟨hb, by simp⟩, by simp, hprimary,
    hplan.sorted.targets_nodup hsorts, rfl, rfl, rfl, ?_⟩
  intro cosigned m hm
  obtain ⟨dummies, -, hm⟩ := bind_eq_ok.mp hm
  obtain ⟨targets', htargets, hout⟩ := bind_eq_ok.mp hm
  cases hout
  exact ⟨List.subset_append_left .., mapEach_index
    (P := fun T => From (userMaterialOf d .boundedBase) [base] T.targetIndex T.userMaterial ∧
      From cosignerMaterialOf cosigned T.targetIndex T.cosignerMaterial)
    (fun target T hT =>
      let ⟨hi, hrest⟩ := boundedAssemblyTarget_ok hT
      ⟨hi, hi ▸ hrest⟩) htargets⟩

/-- The keys found for the choice of the flow are those of the items. -/
theorem flowKeys_ok {items : List PreparedTransaction} {found : List (Option KeyInfo)}
    (h : Runs (collect (preparedFlowKey d (some user)) items.zipIdx) t (.ok found)) :
    found.length = items.length ∧ ∀ (i : ℕ) item k, items[i]? = some item → found[i]? = some k →
      (∀ key, k = some key → KeyOf user t item key) ∧ (k = none → item.signerKey = none) := by
  obtain ⟨hlen, heach⟩ := runs_collect_ok h
  refine ⟨by rw [hlen, List.length_zipIdx], fun i item k hi hk => ?_⟩
  obtain ⟨t', ht', hrun⟩ := heach i (item, i) k (by simp [hi]) hk
  refine ⟨fun key hkey => ?_, fun hnone => ?_⟩
  · rw [hkey] at hrun
    exact (lookupKey_ok hrun).mono ht'
  · rw [hnone] at hrun
    exact lookupKey_none hrun

theorem withKeys_length {found : List (Option KeyInfo)} {client : Option Client}
    (h : Runs (collect (preparedFlowKey d client) opts.transactions.zipIdx) t (.ok found)) :
    (withKeys d opts found).transactions.length = opts.transactions.length := by
  have hlen := (runs_collect_ok h).1
  rw [List.length_zipIdx] at hlen
  unfold withKeys
  split
  · simp [hlen]
  · rfl

/-- The slots with the keys found before differ in their keys only, and these
are the keys of the slots. -/
theorem withKeys_item {found : List (Option KeyInfo)}
    (h : Runs (collect (preparedFlowKey d (some user)) opts.transactions.zipIdx) t (.ok found)) {i : ℕ}
    {item : PreparedTransaction} (hi : opts.transactions[i]? = some item) :
    ∃ k, (withKeys d opts found).transactions[i]? = some { item with signerKey := k } ∧
      ∀ u key, KeyOf user u { item with signerKey := k } key → KeyOf user (t ++ u) item key := by
  obtain ⟨hlen, hkeys⟩ := flowKeys_ok h
  unfold withKeys
  split
  · obtain ⟨hlt, -⟩ := List.getElem?_eq_some_iff.mp hi
    have hf := List.getElem?_eq_getElem (hlen ▸ hlt : i < found.length)
    have hzip : (opts.transactions.zip found)[i]? = some (item, found[i]) :=
      List.getElem?_zip_eq_some.mpr ⟨hi, hf⟩
    refine ⟨found[i], by rw [List.getElem?_map, hzip]; rfl, fun u key hkey => ?_⟩
    obtain ⟨hsome, hnone⟩ := hkeys i item _ hi hf
    rcases hkey with hkey | ⟨hkey, hsent⟩
    · exact (hsome key hkey).mono (List.subset_append_left ..)
    · exact Or.inr ⟨hnone hkey, List.mem_append_right _ hsent⟩
  · exact ⟨item.signerKey, hi, fun u key hkey => hkey.mono (List.subset_append_right ..)⟩

theorem withKeys_userClient {found : List (Option KeyInfo)} :
    (withKeys d opts found).userClient = opts.userClient := by
  unfold withKeys
  split <;> rfl

/-- Keeping the keys found before does not change whose keys they are. -/
theorem SignsPrepared.of_withKeys {found : List (Option KeyInfo)} {flow : String}
    {kind : ComponentTargetKind} {group : Group}
    (hfound : Runs (collect (preparedFlowKey d opts.userClient) opts.transactions.zipIdx) t (.ok found))
    (h : SignsPrepared flow kind (withKeys d opts found) u group) :
    SignsPrepared flow kind opts (t ++ u) group := by
  obtain ⟨hclient, hkind, keys, hlen, hkeys⟩ := h
  rw [withKeys_userClient] at hclient
  rw [withKeys_length hfound] at hlen
  rw [hclient] at hfound
  refine ⟨hclient, hkind, keys, hlen, fun i item key hi hk => ?_⟩
  obtain ⟨k, hi', hof⟩ := withKeys_item hfound hi
  obtain ⟨hkey, hrest⟩ := hkeys i _ key hi' hk
  exact ⟨hof u key hkey, hrest⟩

theorem onlyKinds_flowKeys {client : Option Client} {items : List PreparedTransaction} :
    OnlyKinds [.key] (collect (preparedFlowKey d client) items.zipIdx) := by
  refine emits_collect _ fun p _ => ?_
  unfold preparedFlowKey
  split
  · exact onlyKinds_lookupKey
  · split
    · exact emits_done _
    · exact emits_pure _

theorem withKeys_cosigner {found : List (Option KeyInfo)} :
    (withKeys d opts found).cosigner = opts.cosigner := by
  unfold withKeys
  split <;> rfl

theorem prepared_entry (hl : d.Lawful)
    (h : Runs (signPreparedGuardedGroup d opts) (pre ++ e :: post) r) (he : Closes e) :
    ∃ group u c responses asks items pre' r', (Entry.prepared opts).Signs u group ∧ pre = u ++ pre' ∧
      Stage d opts.cosigner group u c responses asks items ∧
      Runs (cosignAndAssemble d c) (pre' ++ e :: post) r' := by
  rcases runs_lift_bind.mp h with ⟨_, -, hnil, -⟩ | ⟨_, -, h⟩
  · simp at hnil
  obtain ⟨found, t₀, pre₀, rfl, hfound, h⟩ :=
    runs_bind_split (onlyKinds_flowKeys.not_closes (by decide) (by decide)) he h
  have hkinds₀ := (onlyKinds_flowKeys.mono (by simp : _ ⊆ [.key, .plan])) t₀ _ hfound
  split at h
  · split at h
    · obtain ⟨hnil, -⟩ := h
      simp at hnil
    · obtain ⟨group, u, c, responses, asks, items, pre', r', hsigns, rfl, hstage, hrun⟩ :=
        bounded_entry hl h he
      rw [withKeys_cosigner] at hstage
      exact ⟨group, t₀ ++ u, c, responses, asks, items, pre', r', Or.inl (hsigns.of_withKeys hfound),
        (List.append_assoc ..).symm, hstage.prepend hkinds₀, hrun⟩
  · obtain ⟨signOpts, t₁, pre₁, rfl, hbuild, h⟩ :=
      runs_bind_split (onlyKinds_buildGuarded.not_closes (by decide) (by decide)) he h
    obtain ⟨user, keys, slots, plan, planned, hplan, hclient, hcosigner, -, htargets, hprimaries⟩ :=
      buildGuarded_ok hl hbuild
    obtain ⟨group, u, c, responses, asks, items, pre', r', ⟨huser, hkind, hperm, hprim⟩, rfl, hstage, hrun⟩ :=
      guarded_entry hl h he
    have hgroup : group = ⟨user, .user, group.targets,
        (slots.filterMap Slot.primary?).map (·.targetIndex)⟩ := by
      rw [hclient] at huser
      rw [hprimaries] at hprim
      cases group
      simp only at hkind hprim huser
      rw [hkind, hprim, Option.some.inj huser]
    have hsigns := hplan.sorted.signs .user hplan.client (sorts_sortGuarded d.rules)
      (htargets ▸ hperm)
    rw [← hgroup] at hsigns
    have hkinds₁ : ∀ e ∈ t₀ ++ t₁, exchangeKind e ∈ [.key, .plan] := by
      intro e he
      rcases List.mem_append.mp he with he | he
      · exact hkinds₀ e he
      · exact onlyKinds_buildGuarded t₁ _ hbuild e he
    rw [hcosigner, withKeys_cosigner] at hstage
    refine ⟨group, t₀ ++ t₁ ++ u, c, responses, asks, items, pre', r', Or.inr ?_, ?_,
      hstage.prepend hkinds₁, hrun⟩
    · exact (hsigns.of_withKeys hfound).mono (List.subset_append_left ..)
    · simp only [List.append_assoc]

/-- A run of an entry that reached its closing, with the user side behind it. -/
theorem entry_stage (hl : d.Lawful) (entry : Entry)
    (h : Runs (entry.flow d) (pre ++ e :: post) r) (he : Closes e) :
    ∃ group u c responses asks items pre' r', entry.Signs u group ∧ pre = u ++ pre' ∧
      Stage d entry.cosigner group u c responses asks items ∧
      Runs (cosignAndAssemble d c) (pre' ++ e :: post) r' := by
  cases entry with
  | guarded opts => exact guarded_entry hl h he
  | bounded opts => exact bounded_entry hl h he
  | prepared opts => exact prepared_entry hl h he

end EntryStage

end AplaneSdk
