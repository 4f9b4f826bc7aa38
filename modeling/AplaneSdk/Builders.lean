/-
# The requests the choreographies build

What a choreography builds from a checked plan is well formed, whatever the
mix of targets, primary positions and dummies: the requests of the rounds and
the base request cover the group exactly, the entries at `/sign` are in their
modes, and the assembly request has an item for every position.

Key definitions: `Fits`.
Key theorems: `componentRequestOk_indices`, `componentRequestOk_base`,
`entriesOk_bounded`, `entriesOk_guarded`, `assemblyRequestOk_of_perm`.
-/
import AplaneSdk.Agreement
import AplaneSdk.Envelopes
import AplaneSdk.Strictness

namespace AplaneSdk

open Checks Grouping Interaction Interaction.Prog

/-! ### What the validators of a language decide -/

/-- The ids a language accepts. -/
def Language.IdOk (env : Env) : Language → String → Prop
  | python => Python.IdOk env
  | _ => ValidRequestId

/-- How a language tests that arguments are there. -/
def Language.hasArgs : Language → Option (List (String × String)) → Bool
  | typescript => Option.isSome
  | _ => hasSomeArgs

section Validators

variable {env : Env} {L : Language}

theorem Language.hasArgs_none (L : Language) : L.hasArgs none = false := by
  cases L <;> rfl

theorem Language.idOk_of_valid (henv : env.KnowsAscii) {id : String} (h : ValidRequestId id) : L.IdOk env id := by
  cases L with
  | go => exact h
  | python => exact (Python.validateSignRequestId_ok henv h.2).mpr h.1
  | typescript => exact h

theorem validateComponentRequest_iff {r : ComponentRequest} :
    (L.dialect env).calls.validateComponentRequest r = .ok () ↔
      L.IdOk env r.requestId ∧ ComponentRequestOk L.hasArgs r := by
  cases L with
  | go => exact Go.validateComponentRequest_ok
  | python => exact Python.validateComponentRequest_ok
  | typescript => exact TypeScript.validateComponentRequest_ok

theorem validateAssemblyRequest_iff {r : AssemblyRequest} :
    (L.dialect env).calls.validateAssemblyRequest r = .ok () ↔
      L.IdOk env r.requestId ∧ AssemblyRequestOk (L.IdOk env) L.hasArgs r := by
  cases L with
  | go => exact Go.validateAssemblyRequest_ok
  | python => exact Python.validateAssemblyRequest_ok
  | typescript => exact TypeScript.validateAssemblyRequest_ok

theorem validateGroupSignRequest_iff {r : GroupSignRequest} (hid : L.IdOk env r.requestId)
    (hne : r.requestId ≠ "") :
    (L.dialect env).calls.validateGroupSignRequest r = .ok () ↔ EntriesOk r.requests := by
  cases L with
  | go =>
    show Go.validateGroupSignRequest env r = .ok () ↔ _
    rw [Go.validateGroupSignRequest, seq_eq_ok, Go.validateSignRequestId_ok]
    exact (and_iff_right hid).trans (validateSignEntries_ok fun _ => by rw [mapErr_ok, Go.validateResources_ok])
  | python =>
    show Python.validateGroupSignRequest env r = .ok () ↔ _
    rw [Python.validateGroupSignRequest, seq_eq_ok, seq_eq_ok, requireId, failIf_ok]
    refine (and_iff_right hne).trans ((and_iff_right hid).trans ?_)
    exact validateSignEntries_ok fun _ => validateLsigResources_ok
  | typescript =>
    show TypeScript.validateGroupSignRequest env r = .ok () ↔ _
    rw [TypeScript.validateGroupSignRequest, seq_eq_ok, seq_eq_ok, requireId, failIf_ok,
      TypeScript.validateSignRequestId_ok]
    refine (and_iff_right hne).trans ((and_iff_right hid).trans ?_)
    exact validateSignEntries_ok fun _ => validateLsigResources_ok

/-- An accepted id is a valid one, and not empty. -/
theorem IdFor.valid {purpose : Purpose} {id sent : String} {t : Trace signer} (h : IdFor purpose id t sent)
    (hid : ValidRequestId id) : ValidRequestId sent := by
  rcases h with ⟨-, rfl⟩ | ⟨-, bytes, -, rfl⟩
  · exact hid
  · exact validRequestId_newSignRequestId bytes.property

end Validators

/-! ### Component requests -/

theorem getElem?_contiguousIndices {start stop k : ℕ} {i : ℤ} (h : (contiguousIndices start stop)[k]? = some i) :
    i = ((start + k : ℕ) : ℤ) := by
  unfold contiguousIndices at h
  rw [List.getElem?_map, Option.map_eq_some_iff] at h
  obtain ⟨j, hj, rfl⟩ := h
  obtain ⟨hlt, hget⟩ := List.getElem?_eq_some_iff.mp hj
  rw [← hget]
  simp

/-- The positions before the dummies. -/
def originals (n : ℕ) : List ℤ := (List.range n).map fun i : ℕ => (i : ℤ)

theorem mem_originals {n : ℕ} {i : ℤ} : i ∈ originals n ↔ 0 ≤ i ∧ i < n := by
  unfold originals
  rw [List.mem_map]
  constructor
  · rintro ⟨j, hj, rfl⟩
    have := List.mem_range.mp hj
    omega
  · rintro ⟨h0, h1⟩
    exact ⟨i.toNat, List.mem_range.mpr (by omega), by omega⟩

theorem nodup_originals (n : ℕ) : (originals n).Nodup :=
  List.nodup_range.map fun _ _ h => Int.ofNat_inj.mp h

/-- A request that names the originals and lists the rest as dummies covers the
group exactly. -/
theorem componentRequestOk_of_perm {r : ComponentRequest} {n : ℕ}
    {hasArgs : Option (List (String × String)) → Bool} (hbytes : GroupBytesOk r.groupBytesHex)
    (hle : n ≤ r.groupBytesHex.length)
    (hdummies : r.dummyPositions = (contiguousIndices n r.groupBytesHex.length).map fun i => { targetIndex := i })
    (hne : r.targets ≠ [])
    (hperm : (r.targets.map (·.targetIndex) ++ r.contextualPositions.map (·.targetIndex)).Perm (originals n))
    (hkinds : ∀ k t, r.targets[k]? = some t → TargetKindOk hasArgs r.targets k t)
    (hcontext : ∀ p ∈ r.contextualPositions, ContextOk p) : ComponentRequestOk hasArgs r := by
  have hlen : r.dummyPositions.length = r.groupBytesHex.length - n := by
    rw [hdummies, List.length_map, length_contiguousIndices]
  have hcount : r.originalCount = n := by
    unfold ComponentRequest.originalCount
    omega
  refine ⟨hbytes, hne, by omega, fun i hi => ?_, hperm.nodup_iff.mpr (nodup_originals n), fun i hi => ?_, hkinds,
    hcontext, fun k dummy hk => ?_⟩
  · rw [hcount]
    exact mem_originals.mp (hperm.mem_iff.mp hi)
  · rw [hcount] at hi
    exact hperm.mem_iff.mpr (mem_originals.mpr ⟨by omega, by omega⟩)
  · rw [hdummies, List.getElem?_map, Option.map_eq_some_iff] at hk
    obtain ⟨i, hi, rfl⟩ := hk
    rw [hcount]
    exact getElem?_contiguousIndices hi

/-- A frame of `n` original positions with the dummies behind them. -/
structure Fits (d : Dialect) (frame : ComponentFrame) (n : ℕ) : Prop where
  bytes : GroupBytesOk frame.groupBytesHex
  le : n ≤ frame.groupBytesHex.length
  dummies : frame.dummyPositions = contiguousIndices n frame.groupBytesHex.length
  count : d.originalCount frame.groupBytesHex.length (frame.groupBytesHex.length - n) = n

/-- A request for some of the original positions lists the others as context. -/
theorem componentRequestOk_indices {d : Dialect} {frame : ComponentFrame} {n : ℕ}
    {kind : ComponentTargetKind} {key id : String} {indices : List ℤ}
    {hasArgs : Option (List (String × String)) → Bool} (h : Fits d frame n) (hne : indices ≠ [])
    (hnodup : indices.Nodup) (hrange : ∀ i ∈ indices, 0 ≤ i ∧ i < (n : ℤ))
    (hkind : kind = .user ∧ key ≠ "" ∨ kind = .cosigner) (hargs : hasArgs none = false) :
    ComponentRequestOk hasArgs { componentRequestForIndices d frame kind key indices with requestId := id } := by
  refine componentRequestOk_of_perm h.bytes h.le (congrArg (List.map _) h.dummies) ?_ ?_ ?_ ?_
  · simpa [componentRequestForIndices] using hne
  · have hcontext : (componentRequestForIndices d frame kind key indices).contextualPositions.map
        (·.targetIndex) = (originals n).filter (· ∉ indices) := by
      unfold componentRequestForIndices originals
      rw [h.dummies, length_contiguousIndices, h.count, List.map_map]
      exact List.map_id _
    show ((componentRequestForIndices d frame kind key indices).indices ++ _).Perm (originals n)
    rw [indices_componentRequestForIndices, hcontext]
    refine (List.perm_ext_iff_of_nodup ?_ (nodup_originals n)).mpr fun i => ?_
    · refine List.nodup_append'.mpr ⟨hnodup, (nodup_originals n).filter _, fun i hi hi' => ?_⟩
      exact absurd hi (of_decide_eq_true (List.mem_filter.mp hi').2)
    · rw [List.mem_append, List.mem_filter, mem_originals, decide_eq_true_eq]
      by_cases hmem : i ∈ indices
      · simp [hmem, hrange i hmem]
      · simp [hmem]
  · intro k t ht
    obtain ⟨first, rest, rfl⟩ := List.exists_cons_of_ne_nil hne
    obtain ⟨i, -, rfl⟩ := List.mem_map.mp (List.mem_of_getElem? ht)
    rcases hkind with ⟨rfl, hkey⟩ | rfl
    · simp [TargetKindOk, componentRequestForIndices, hkey, hargs]
    · simp [TargetKindOk, componentRequestForIndices, hargs]
  · intro p hp
    obtain ⟨i, -, rfl⟩ := List.mem_map.mp hp
    simp [ContextOk]

theorem filterMap_const {α β γ : Type} (f : α → Option β) (g : α → γ) (xs : List α) :
    (xs.filterMap fun x => (f x).map fun _ => g x) = (xs.filter fun x => (f x).isSome).map g := by
  induction xs with
  | nil => rfl
  | cons x xs ih =>
    rw [List.filterMap_cons, List.filter_cons]
    cases f x with
    | none => simpa using ih
    | some b => simpa using ih

/-- The originals are the positions of the slots, by what the slots are. -/
theorem originals_perm (slots : List Slot) :
    ((slots.zipIdx.filter (·.1.target?.isSome)).map (fun p => (p.2 : ℤ)) ++
      (slots.zipIdx.filter (·.1.primary?.isSome)).map fun p => (p.2 : ℤ)).Perm (originals slots.length) := by
  have hprimary : slots.zipIdx.filter (·.1.primary?.isSome) =
      slots.zipIdx.filter (fun p => !p.1.target?.isSome) := by
    refine List.filter_congr fun p _ => ?_
    unfold Slot.primary? Slot.target?
    cases p.1.role <;> rfl
  have hpositions : slots.zipIdx.map (fun p => (p.2 : ℤ)) = originals slots.length := by
    rw [originals, List.range_eq_range', ← List.zipIdx_map_snd 0 slots, List.map_map]
    rfl
  rw [← List.map_append, hprimary, ← hpositions]
  exact (List.filter_append_perm _ _).map _

/-- The base request of a bounded group. -/
theorem componentRequestOk_base {group : List String} {slots : List Slot} {id : String}
    {hasArgs : Option (List (String × String)) → Bool} (hbytes : GroupBytesOk group)
    (hle : slots.length ≤ group.length) (htargets : slots.filterMap Slot.target? ≠ [])
    (haddress : ∀ slot ∈ slots, slot.target?.isSome → slot.request.authAddress ≠ "")
    (hcontext : ∀ slot ∈ slots, slot.primary?.isSome → EntryOk slot.request .foreign) :
    ComponentRequestOk hasArgs { baseComponentRequest group slots with requestId := id } := by
  refine componentRequestOk_of_perm hbytes hle rfl ?_ ?_ ?_ ?_
  · obtain ⟨target, hmem⟩ := List.exists_mem_of_ne_nil _ htargets
    obtain ⟨slot, hslot, htarget⟩ := List.mem_filterMap.mp hmem
    obtain ⟨i, hi⟩ := List.mem_iff_getElem?.mp hslot
    obtain ⟨x, hx, -⟩ := mem_baseComponentRequest group hi htarget
    exact List.ne_nil_of_mem hx
  · show (List.map _ (slots.zipIdx.filterMap _) ++ List.map _ (slots.zipIdx.filterMap _)).Perm _
    rw [filterMap_const, filterMap_const, List.map_map, List.map_map]
    exact originals_perm slots
  · intro k t ht
    have hkind : ∀ t ∈ (baseComponentRequest group slots).targets, t.kind = .boundedBase ∧
        t.authAddress ≠ "" ∧ t.componentKey = "" := by
      intro t ht
      obtain ⟨⟨slot, i⟩, hp, hmap⟩ := List.mem_filterMap.mp ht
      obtain ⟨target, htarget, rfl⟩ := Option.map_eq_some_iff.mp hmap
      have hslot := List.mem_of_getElem? (List.mem_zipIdx_iff_getElem?.mp hp)
      exact ⟨rfl, haddress slot hslot (by rw [htarget]; rfl), rfl⟩
    obtain ⟨first, rest, hlist⟩ := List.exists_cons_of_ne_nil (List.ne_nil_of_mem (List.mem_of_getElem? ht))
    obtain ⟨hfirst, -⟩ := hkind first (by rw [hlist]; exact List.mem_cons_self ..)
    obtain ⟨hk, ha, hc⟩ := hkind t (List.mem_of_getElem? ht)
    unfold TargetKindOk
    rw [hlist, hk]
    exact ⟨by simp [hfirst], ha, hc⟩
  · intro p hp
    obtain ⟨⟨slot, i⟩, hmem, hmap⟩ := List.mem_filterMap.mp hp
    obtain ⟨target, htarget, rfl⟩ := Option.map_eq_some_iff.mp hmap
    have hslot := List.mem_of_getElem? (List.mem_zipIdx_iff_getElem?.mp hmem)
    obtain ⟨-, hscheme, -, hnone, hbounds⟩ := hcontext slot hslot (by rw [htarget]; rfl)
    refine ⟨fun hsome => ?_, hbounds, hscheme⟩
    by_contra hpq
    have hres : slot.request.lsigResources = none := hnone hpq
    dsimp only at hsome
    rw [hres] at hsome
    cases hsome

/-! ### Assembly requests -/

theorem originals_append {n m : ℕ} (h : n ≤ m) : originals n ++ contiguousIndices n m = originals m := by
  have hrange : List.range n ++ List.range' n (m - n) = List.range m := by
    have happend := List.range'_append_1 (s := 0) (m := n) (n := m - n)
    rw [Nat.zero_add, Nat.add_sub_cancel' h] at happend
    rw [List.range_eq_range', List.range_eq_range', happend]
  rw [originals, contiguousIndices, ← List.map_append, hrange, originals]

/-- A request whose targets and items name every position once. -/
theorem assemblyRequestOk_of_perm {idOk : String → Prop} {hasArgs : Option (List (String × String)) → Bool}
    {r : AssemblyRequest} (hbytes : GroupBytesOk r.groupBytesHex)
    (hperm : r.indices.Perm (originals r.groupBytesHex.length)) (htargets : ∀ t ∈ r.targets, t.Ok idOk hasArgs)
    (hitems : ∀ p ∈ r.passthrough, p.signedTxnHex ≠ "") : AssemblyRequestOk idOk hasArgs r where
  bytes := hbytes
  range i hi := mem_originals.mp (hperm.mem_iff.mp hi)
  nodup := hperm.nodup_iff.mpr (nodup_originals _)
  cover i hi := hperm.mem_iff.mpr (mem_originals.mpr ⟨by omega, by omega⟩)
  targets := htargets
  passthrough := hitems

section Material

variable {env : Env} {L : Language} {d : Dialect} {calls : Calls} {kind : ComponentTargetKind}
  {belongs : GuardedSignTarget → Asking → ComponentTarget → Prop} {targets : List GuardedSignTarget}
  {t : Trace signer} {responses cosigned : List ComponentResponse} {asks : List Asking}

/-- What an assembly target takes from a side is a component of its kind, with
the id of the request it answers. -/
theorem Side.component (h : Side calls kind belongs targets t responses asks)
    (hcalls : calls.validateComponentRequest = (L.dialect env).calls.validateComponentRequest) {M : Type}
    {of : Component → String → M} {i : ℤ} {material : M} (hfrom : From of responses i material) :
    ∃ c id, material = of c id ∧ c.kind = kind ∧ c.WellFormed ∧ L.IdOk env id := by
  obtain ⟨resp, hr, c, hc, -, rfl⟩ := hfrom
  obtain ⟨requests, hround, -⟩ := h.round
  rw [← hround.responses] at hr
  obtain ⟨a, ha, rfl⟩ := List.mem_map.mp hr
  have hasked := hround.asked a ha
  have hvalid := hasked.valid
  rw [hcalls, validateComponentRequest_iff] at hvalid
  obtain ⟨x, hx, -, hkind⟩ := hasked.components.asked c hc
  refine ⟨c, _, rfl, ?_, hasked.components.material c hc, ?_⟩
  · rw [← hkind, h.kinds a ha x hx]
  · rw [hasked.requestId]
    exact hvalid.1

variable {idOk : String → Prop} {hasArgs : Option (List (String × String)) → Bool} {T : AssemblyTarget}
  {c c' : Component} {id id' : String}

theorem assemblyTarget_ok_guarded (hkind : T.kind = .guarded) (haddress : T.authAddress ≠ "")
    (huser : T.userMaterial = userMaterialOf d .user c id) (hcosigner : T.cosignerMaterial = cosignerMaterialOf c' id')
    (hc : c.kind = .user) (hc' : c'.kind = .cosigner) (hw : c.WellFormed) (hw' : c'.WellFormed) (hid : idOk id)
    (hid' : idOk id') (hargs : hasArgs none = false) : T.Ok idOk hasArgs := by
  unfold Component.WellFormed at hw hw'
  rw [hc] at hw
  rw [hc'] at hw'
  simp only [AssemblyTarget.userMaterial, userMaterialOf, if_true, UserMaterial.mk.injEq] at huser
  obtain ⟨hsignature, hsource, hbases, hruntime, hreceipt, hbase⟩ := huser
  obtain ⟨hcosigned, hcosource⟩ := Prod.mk.inj hcosigner
  unfold AssemblyTarget.Ok
  rw [hkind, hcosigned, hcosource, hsignature, hsource, hbases, hruntime, hreceipt, hbase]
  exact ⟨haddress, hw'.1, hid', hw.1, rfl, hargs, rfl, rfl, hid⟩

theorem assemblyTarget_ok_bounded (hkind : T.kind = .boundedCosigner) (haddress : T.authAddress ≠ "")
    (hruntime : T.guardedRuntimeArgs = []) (huser : T.userMaterial = userMaterialOf d .boundedBase c id)
    (hcosigner : T.cosignerMaterial = cosignerMaterialOf c' id') (hc : c.kind = .boundedBase)
    (hc' : c'.kind = .cosigner) (hw : c.WellFormed) (hw' : c'.WellFormed) (hid : idOk id) (hid' : idOk id') :
    T.Ok idOk hasArgs := by
  unfold Component.WellFormed at hw hw'
  rw [hc] at hw
  rw [hc'] at hw'
  rw [userMaterialOf, if_neg (by decide)] at huser
  simp only [AssemblyTarget.userMaterial, UserMaterial.mk.injEq] at huser
  obtain ⟨hsignature, hsource, hbases, -, hreceipt, hbase⟩ := huser
  obtain ⟨hcosigned, hcosource⟩ := Prod.mk.inj hcosigner
  unfold AssemblyTarget.Ok
  rw [hkind, hcosigned, hcosource, hsignature, hsource, hbases, hreceipt, hbase, hruntime]
  exact ⟨haddress, hw'.1, hid', hw.2.1, hw.2.2.1, rfl, rfl, rfl, hid⟩

variable {target : GuardedSignTarget} {out : AssemblyTarget}

theorem guardedAssemblyTarget_fields (h : guardedAssemblyTarget responses cosigned target = .ok out) :
    out.kind = .guarded ∧ out.authAddress = target.guardedAccount := by
  unfold guardedAssemblyTarget at h
  split at h
  · cases h
  · split at h
    · cases h
    · cases h
      exact ⟨rfl, rfl⟩

theorem boundedAssemblyTarget_fields {base : ComponentResponse}
    (h : boundedAssemblyTarget d base cosigned target = .ok out) :
    out.kind = .boundedCosigner ∧ out.authAddress = target.guardedAccount ∧ out.guardedRuntimeArgs = [] := by
  unfold boundedAssemblyTarget at h
  split at h
  · cases h
  · split at h
    · cases h
    · cases h
      exact ⟨rfl, rfl, rfl⟩

end Material

/-! ### The positions of a plan -/

/-- What `f` finds in the slots, by position. -/
theorem map_filterMap_slots {β : Type} {f : Slot → Option β} {index : β → ℤ} {slots : List Slot}
    (h : ∀ (i : ℕ) slot b, slots[i]? = some slot → f slot = some b → index b = i) :
    (slots.filterMap f).map index = (slots.zipIdx.filter fun p => (f p.1).isSome).map fun p => (p.2 : ℤ) := by
  calc (slots.filterMap f).map index
      = slots.filterMap fun slot => (f slot).map index := List.map_filterMap ..
    _ = slots.zipIdx.filterMap fun p => (f p.1).map index := by
        conv_lhs => rw [← List.zipIdx_map_fst 0 slots]
        rw [List.filterMap_map]
        rfl
    _ = slots.zipIdx.filterMap fun p => (f p.1).map fun _ => (p.2 : ℤ) := by
        refine List.filterMap_congr fun p hp => ?_
        cases hb : f p.1 with
        | none => rfl
        | some b =>
          exact congrArg some (h p.2 p.1 b (List.mem_zipIdx_iff_getElem?.mp hp) hb)
    _ = _ := filterMap_const ..

/-- Targets and primary targets have the positions of the slots between them. -/
theorem SlotsOf.perm_originals {copy : Txn → Except SdkError Txn} {sort : SortSlot} {flow : String}
    {user : Client} {t : Trace signer} {items : List PreparedTransaction} {keys : List KeyInfo}
    {slots : List Slot} (h : SlotsOf copy sort user t items keys slots) (hsorts : Sorts flow sort) :
    ((slots.filterMap Slot.target?).map (·.targetIndex) ++
      (slots.filterMap Slot.primary?).map (·.targetIndex)).Perm (originals slots.length) := by
  rw [map_filterMap_slots fun _ _ _ hs ht => h.target_index hsorts hs ht,
    map_filterMap_slots fun _ _ _ hs hp => h.primary_index hsorts hs hp]
  exact originals_perm slots

/-- A signed dummy, as a passthrough item. -/
structure DummyItem (sdk : AlgoSdk) (item : AssemblyPassthroughItem) : Prop where
  authorization : item.authorization = some { logicSigResources := some guardedDummyLogicSigResources }
  signed : ∃ txn bytes, sdk.signLogicSig guardedDummyProgram txn = .ok bytes ∧ item.signedTxnHex = hexEncode bytes

/-- The dummies take the positions from `start` on. -/
theorem signGuardedDummies_ok {codec : Codec} {addressFailure : String → SdkError}
    {signFailure : ℕ → String → SdkError} {dummies : List Txn} {start : ℕ} {items : List AssemblyPassthroughItem}
    (h : signGuardedDummies codec addressFailure signFailure dummies start = .ok items) :
    items.map (·.targetIndex) = contiguousIndices start (start + dummies.length) ∧
      ∀ item ∈ items, DummyItem codec.sdk item := by
  unfold signGuardedDummies at h
  split at h
  · rename_i hnil
    cases h
    simp [hnil, contiguousIndices]
  · simp only [bind_eq_ok] at h
    obtain ⟨_, -, h⟩ := h
    obtain ⟨hlen, heach⟩ := mapEach_ok.mp h
    have hitem : ∀ (j : ℕ) item, items[j]? = some item →
        item.targetIndex = ((start + j : ℕ) : ℤ) ∧ DummyItem codec.sdk item := by
      intro j item hj
      obtain ⟨hlt, -⟩ := List.getElem?_eq_some_iff.mp hj
      have hx := List.getElem?_eq_getElem (hlen ▸ hlt : j < dummies.length)
      have hsigned := heach j _ item hx hj
      split at hsigned
      · cases hsigned
      · rename_i bytes hbytes
        cases hsigned
        exact ⟨by rw [Nat.zero_add], rfl, _, bytes, hbytes, rfl⟩
    constructor
    · refine List.ext_getElem? fun j => ?_
      rw [List.getElem?_map]
      cases hj : items[j]? with
      | none =>
        have hge := List.getElem?_eq_none_iff.mp hj
        rw [Option.map_none, List.getElem?_eq_none]
        rw [length_contiguousIndices]
        omega
      | some item =>
        obtain ⟨hlt, -⟩ := List.getElem?_eq_some_iff.mp hj
        have hget := List.getElem?_eq_getElem (l := contiguousIndices start (start + dummies.length)) (i := j)
          (by rw [length_contiguousIndices]; omega)
        rw [hget, Option.map_some, (hitem j item hj).1, getElem?_contiguousIndices hget]
    · intro item hmem
      obtain ⟨j, hj⟩ := List.mem_iff_getElem?.mp hmem
      exact (hitem j item hj).2

theorem unhex_empty (env : Env) : ∀ L : Language, (L.dialect env).codec.unhex "" = some []
  | .go => rfl
  | .python => rfl
  | .typescript => rfl

/-- The entries of a decoded group are not empty. -/
theorem groupBytesOk_decoded {env : Env} {L : Language} {group : List String} {planned : List Txn}
    (h : decodeCanonicalGroup (L.dialect env).codec group = .ok planned) : GroupBytesOk group := by
  obtain ⟨hlen, hpos, hmax, heach, -⟩ := decodeCanonicalGroup_ok (L.lawful_dialect env).codec h
  refine ⟨List.length_pos_iff.mp (hlen ▸ hpos), hlen ▸ hmax, fun item hitem hempty => ?_⟩
  obtain ⟨i, hi⟩ := List.mem_iff_getElem?.mp hitem
  obtain ⟨hlt, -⟩ := List.getElem?_eq_some_iff.mp hi
  have hbytes := heach i item _ hi (List.getElem?_eq_getElem (hlen ▸ hlt : i < planned.length))
  rw [hempty, unhex_empty] at hbytes
  simp [AlgoSdk.encodeTxn, txPrefix] at hbytes

/-- So are those of the group as it is sent again. -/
theorem groupBytesOk_encoded {env : Env} {L : Language} {group : List String} {planned : List Txn}
    (h : decodeCanonicalGroup (L.dialect env).codec group = .ok planned) :
    GroupBytesOk (planned.map fun txn => hexEncode ((L.dialect env).codec.sdk.encodeTxn txn)) := by
  obtain ⟨-, hpos, hmax, -⟩ := decodeCanonicalGroup_ok (L.lawful_dialect env).codec h
  refine ⟨?_, ?_, fun item hitem => ?_⟩
  · rw [ne_eq, List.map_eq_nil_iff]
    exact List.length_pos_iff.mp hpos
  · rw [List.length_map]
    exact hmax
  · obtain ⟨txn, -, rfl⟩ := List.mem_map.mp hitem
    exact hexEncode_encodeTxn_ne _ txn

/-! ### Entries at `/sign` -/

section SignEntries

variable {env : Env} {L : Language} {requests : List SignRequest}

/-- Entries to be signed, one at least, among foreign ones. -/
theorem entriesOk_of_signed (hentry : ∀ r ∈ requests, (r.Selects .sign ∧ EntryOk r .sign) ∨
      r.Selects .foreign ∧ EntryOk r .foreign)
    (hsigned : ∃ r ∈ requests, r.Selects .sign) : EntriesOk requests := by
  have hmode : ∀ r ∈ requests, ∃ mode, r.Selects mode ∧ EntryOk r mode := by
    intro r hr
    rcases hentry r hr with h | h
    · exact ⟨_, h⟩
    · exact ⟨_, h⟩
  obtain ⟨signed, hmem, hselects⟩ := hsigned
  rw [entriesOk_iff]
  refine ⟨List.ne_nil_of_mem hmem, fun r hr => ?_, fun r hr => ?_, fun r hr => ?_, ?_, fun _ => ?_⟩
  · obtain ⟨mode, h, -⟩ := hmode r hr
    exact ⟨mode, h⟩
  · obtain ⟨mode, h, hok⟩ := hmode r hr
    exact ((entryOk_iff h).mp hok).1
  · obtain ⟨mode, h, hok⟩ := hmode r hr
    exact ((entryOk_iff h).mp hok).2
  · rintro ⟨⟨r, hr, hpass⟩, -⟩
    rcases hentry r hr with ⟨h, -⟩ | ⟨h, -⟩
    · exact absurd (h.unique hpass) (by decide)
    · exact absurd (h.unique hpass) (by decide)
  · exact ⟨signed, hmem, hselects⟩

/-- A primary position is to be signed, and declares nothing. -/
theorem primaryRequest_signed {txnHex : String} {target : GuardedPrimarySignTarget} (hhex : txnHex ≠ "")
    (haddress : target.authAddress ≠ "") :
    ((L.dialect env).primaryRequest txnHex target).Selects .sign ∧
      EntryOk ((L.dialect env).primaryRequest txnHex target) .sign := by
  have hgo : ((Go.dialect env).primaryRequest txnHex target).Selects .sign ∧
      EntryOk ((Go.dialect env).primaryRequest txnHex target) .sign := by
    refine ⟨⟨rfl, hhex, haddress⟩, ?_⟩
    simp [EntryOk, Go.dialect, Go.primaryRequest]
  have hsame := sameEntry_primaryRequest env L txnHex target
  have hmode : signRequestMode Go.err ((L.dialect env).primaryRequest txnHex target) = .ok .sign := by
    rw [hsame.mode]
    exact signRequestMode_ok.mpr hgo.1
  exact ⟨signRequestMode_ok.mp hmode, hsame.entryOk.mpr hgo.2⟩

/-- A position another party signs, with the resources it declares. -/
theorem foreignEntry_ok {txnHex : String} {resources : Option LogicSigResourceUsage} (hhex : txnHex ≠ "")
    (hresources : ∀ x, resources = some x → x.inBounds) :
    ({ txnBytesHex := txnHex, lsigResources := resources } : SignRequest).Selects .foreign ∧
      EntryOk { txnBytesHex := txnHex, lsigResources := resources } .foreign :=
  ⟨⟨rfl, hhex, rfl⟩, fun h => absurd rfl h, fun h => absurd rfl h, fun _ => Or.inl rfl, fun h => absurd rfl h,
    hresources⟩

/-- A position signed before, with what it declares of that. -/
theorem authorizedEntry_ok {txnHex : String} {a : GuardedPassthroughAuthorization} (hhex : txnHex ≠ "")
    (h : ¬ (a.pqScheme ≠ "" ∧ a.logicSigResources.isSome) ∧
      ¬ (a.pqScheme ≠ "" ∧ a.pqScheme ≠ pqSchemeFalcon1024) ∧ ∀ r, a.logicSigResources = some r → r.inBounds) :
    ({ txnBytesHex := txnHex, lsigResources := a.logicSigResources, pqScheme := a.pqScheme } :
        SignRequest).Selects .foreign ∧
      EntryOk { txnBytesHex := txnHex, lsigResources := a.logicSigResources, pqScheme := a.pqScheme }
        .foreign := by
  obtain ⟨hboth, hscheme, hbounds⟩ := h
  refine ⟨⟨rfl, hhex, rfl⟩, fun _ => rfl, fun hne => ?_, fun _ => Or.inl rfl, fun hne => ?_, hbounds⟩
  · by_contra hother
    exact hscheme ⟨hne, hother⟩
  · by_contra hsome
    exact hboth ⟨hne, Option.isSome_iff_ne_none.mpr hsome⟩

theorem inBounds_dummy : guardedDummyLogicSigResources.inBounds := by decide

/-- The entries of a bounded group, when its targets declare resources within
bounds. -/
theorem entriesOk_bounded {group : List String} {slots : List Slot} (hbytes : GroupBytesOk group)
    (hle : slots.length ≤ group.length) (hprimary : slots.filterMap Slot.primary? ≠ [])
    (haddress : ∀ p ∈ slots.filterMap Slot.primary?, p.authAddress ≠ "")
    (hresources : ∀ target ∈ slots.filterMap Slot.target?, ∀ x, target.logicSigResources = some x → x.inBounds) :
    EntriesOk (group.zipIdx.map fun p => boundedEntry (L.dialect env) slots p.2 p.1) := by
  refine entriesOk_of_signed (fun r hr => ?_) ?_
  · obtain ⟨⟨txnHex, i⟩, hp, rfl⟩ := List.mem_map.mp hr
    have hhex : txnHex ≠ "" := hbytes.2.2 _ (List.mem_of_getElem? (List.mem_zipIdx_iff_getElem?.mp hp))
    unfold boundedEntry
    cases hs : slots[i]? with
    | none => exact Or.inr (foreignEntry_ok hhex fun x hx => Option.some.inj hx ▸ inBounds_dummy)
    | some slot =>
      have hslot := List.mem_of_getElem? hs
      dsimp only
      cases hrole : slot.role with
      | cosigned target maxFee =>
        have hmem : target ∈ slots.filterMap Slot.target? :=
          List.mem_filterMap.mpr ⟨slot, hslot, by rw [Slot.target?, hrole]⟩
        exact Or.inr (foreignEntry_ok hhex (hresources target hmem))
      | primary target =>
        have hmem : target ∈ slots.filterMap Slot.primary? :=
          List.mem_filterMap.mpr ⟨slot, hslot, by rw [Slot.primary?, hrole]⟩
        exact Or.inl (primaryRequest_signed hhex (haddress target hmem))
  · obtain ⟨target, hmem⟩ := List.exists_mem_of_ne_nil _ hprimary
    obtain ⟨slot, hslot, hp⟩ := List.mem_filterMap.mp hmem
    obtain ⟨i, hi⟩ := List.mem_iff_getElem?.mp hslot
    obtain ⟨hlt, -⟩ := List.getElem?_eq_some_iff.mp hi
    have hgroup := List.getElem?_eq_getElem (by omega : i < group.length)
    have hentry : boundedEntry (L.dialect env) slots i group[i] =
        (L.dialect env).primaryRequest group[i] target := by
      rw [boundedEntry, hi]
      unfold Slot.primary? at hp
      split at hp
      · cases hp
      · rename_i hrole
        cases hp
        dsimp only
        rw [hrole]
    have hget := getElem?_boundedEntries (i := i) (L.dialect env) group slots
    rw [hgroup, Option.map_some, hentry] at hget
    refine ⟨_, List.mem_of_getElem? hget, ?_⟩
    exact (primaryRequest_signed (hbytes.2.2 _ (List.getElem_mem _)) (haddress target hmem)).1

/-- The entries of a guarded group, which `requestPrimaryGuardedPassthrough`
checks as it builds them. -/
theorem entriesOk_guarded {group : List String} {targets : List GuardedSignTarget}
    {primaries : List GuardedPrimarySignTarget} {passthrough : List AssemblyPassthroughItem}
    (h : primaryEntries (L.dialect env) group targets primaries passthrough = .ok requests)
    (hbytes : GroupBytesOk group) (hprimary : primaries ≠ [])
    (hresources : ∀ target ∈ targets, ∀ x, target.logicSigResources = some x → x.inBounds) :
    EntriesOk requests := by
  simp only [primaryEntries, bind_eq_ok] at h
  obtain ⟨claimed, hclaimed, _, hitems, hentries⟩ := h
  obtain ⟨hlen, heach⟩ := mapEach_ok.mp hentries
  have hindex : ∀ p ∈ primaries, (0 ≤ p.targetIndex ∧ p.targetIndex < group.length) ∧ p.authAddress ≠ "" := by
    intro p hp
    obtain ⟨_, _, hcheck⟩ := claimAll_each hclaimed hp
    simp only [checkPrimaryTarget, seq_eq_ok, failIf_ok, not_or, Int.not_lt, Int.not_le] at hcheck
    exact ⟨hcheck.1, hcheck.2.2.2⟩
  have hitem : ∀ item ∈ passthrough, ∃ a, item.authorization = some a ∧
      (L.dialect env).checkAuthorization item.targetIndex a = .ok () := by
    intro item hitem
    obtain ⟨_, _, hcheck⟩ := claimAll_each hitems hitem
    simp only [checkPassthroughItem, seq_eq_ok] at hcheck
    obtain ⟨-, -, -, -, hcheck⟩ := hcheck
    cases hauth : item.authorization with
    | none =>
      rw [hauth] at hcheck
      cases hcheck
    | some a =>
      rw [hauth] at hcheck
      exact ⟨a, rfl, hcheck⟩
  refine entriesOk_of_signed (fun r hr => ?_) ?_
  · obtain ⟨i, hi⟩ := List.mem_iff_getElem?.mp hr
    obtain ⟨hlt, -⟩ := List.getElem?_eq_some_iff.mp hi
    have hgroup := List.getElem?_eq_getElem (hlen ▸ hlt : i < group.length)
    have hhex := hbytes.2.2 _ (List.mem_of_getElem? hgroup)
    have hentry := heach i _ r hgroup hi
    unfold primaryEntry at hentry
    split at hentry
    · rename_i target hfind
      cases hentry
      exact Or.inl (primaryRequest_signed hhex (hindex target (List.mem_of_find?_eq_some hfind)).2)
    · split at hentry
      · rename_i target hfind
        cases hentry
        exact Or.inr (foreignEntry_ok hhex (hresources target (List.mem_of_find?_eq_some hfind)))
      · split at hentry
        · rename_i item hfind
          cases hentry
          obtain ⟨a, hauth, hcheck⟩ := hitem item (List.mem_of_find?_eq_some hfind)
          have hgo := (checkPassthroughAuthorization_ok
            fun _ => by rw [mapErr_ok, Go.validateResources_ok]).mp (checkAuthorization_go hcheck)
          rw [hauth]
          exact Or.inr (authorizedEntry_ok hhex hgo)
        · cases hentry
  · obtain ⟨p, hp⟩ := List.exists_mem_of_ne_nil _ hprimary
    obtain ⟨⟨h0, hlt⟩, -⟩ := hindex p hp
    have hlt' : p.targetIndex.toNat < group.length := by omega
    have hgroup := List.getElem?_eq_getElem hlt'
    have hr := List.getElem?_eq_getElem (hlen ▸ hlt' : p.targetIndex.toNat < requests.length)
    have hentry := heach _ _ _ hgroup hr
    refine ⟨_, List.mem_of_getElem? hr, ?_⟩
    cases hfind : primaries.find? (·.targetIndex = ((0 + p.targetIndex.toNat : ℕ) : ℤ)) with
    | none =>
      have hne := List.find?_eq_none.mp hfind p hp
      simp [h0] at hne
    | some target =>
      rw [primaryEntry, hfind] at hentry
      rw [← Except.ok.inj hentry]
      exact (primaryRequest_signed (hbytes.2.2 _ (List.mem_of_getElem? hgroup))
        (hindex target (List.mem_of_find?_eq_some hfind)).2).1

end SignEntries

end AplaneSdk
