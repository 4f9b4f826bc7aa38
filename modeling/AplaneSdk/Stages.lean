/-
# The stages of a run

A run that reaches a cosigner has been through the whole user side: `Side`
says that a round of component requests covered the targets of a group, each
position in a request of its own party, and `PrimarySide` that the primary
signer answered for the primary positions. The two choreographies reach the
same `Closing` with such sides behind them.

Key definitions: `SlotsOf`, `Sorts`, `Side`, `PrimarySide`.
Key theorems: `guarded_stage`, `bounded_stage`, `closing_stage`.
-/
import AplaneSdk.Phases

namespace AplaneSdk

open Checks Interaction Interaction.Prog

/-! ### Sorted slots -/

/-- A way to sort slots: by the key of the prepared transaction. -/
abbrev SortSlot := ℕ → PreparedTransaction → Txn → KeyInfo → Except SdkError Slot

/-- The slots of prepared transactions, copied by `copy` and sorted by the keys
a run found. -/
structure SlotsOf (copy : Txn → Except SdkError Txn) (sort : SortSlot) (user : Client) (t : Trace signer) (items : List PreparedTransaction)
    (keys : List KeyInfo) (slots : List Slot) : Prop where
  keys_length : keys.length = items.length
  slots_length : slots.length = items.length
  each : ∀ (i : ℕ) item key slot, items[i]? = some item → keys[i]? = some key → slots[i]? = some slot →
    KeyOf user t item key ∧ ∃ prepared txn, item.transaction = some prepared ∧ copy prepared = .ok txn ∧
      sort i item txn key = .ok slot

/-- The keys of the flow `flow` make targets, all others primary slots. -/
structure Sorts (flow : String) (sort : SortSlot) : Prop where
  target : ∀ {i item txn key slot}, sort i item txn key = .ok slot → key.signingFlow = flow →
    ∃ target, slot.target? = some target ∧ target.targetIndex = i ∧ target.guardedAccount = item.authAddress
  primary : ∀ {i item txn key slot}, sort i item txn key = .ok slot → key.signingFlow ≠ flow →
    ∃ p, slot.primary? = some p ∧ p.targetIndex = i

section Sorting

variable {copy : Txn → Except SdkError Txn} {sort : SortSlot} {user : Client} {t : Trace signer} {items : List PreparedTransaction}
  {keys : List KeyInfo} {slots : List Slot}

theorem sorts_sortBounded (rules : SlotRules) : Sorts signingFlowBoundedCosigner1 (sortBounded rules) where
  target h hflow := by
    rcases (sortBounded_ok h).2 with ⟨target, bounded, hrole, -, -, hi, ha⟩ | ⟨-, hne⟩
    · exact ⟨target, by rw [Slot.target?, hrole], hi, ha⟩
    · exact absurd hflow hne
  primary h hflow := by
    rcases (sortBounded_ok h).2 with ⟨target, bounded, -, he, -⟩ | ⟨hrole, -⟩
    · exact absurd he hflow
    · exact ⟨_, by rw [Slot.primary?, hrole], rfl⟩

theorem sorts_sortGuarded (rules : SlotRules) : Sorts signingFlowCosigner1 (sortGuarded rules) where
  target h hflow := by
    rcases (sortGuarded_ok h).2 with ⟨target, hrole, -, hi, ha⟩ | ⟨-, hne⟩
    · exact ⟨target, by rw [Slot.target?, hrole], hi, ha⟩
    · exact absurd hflow hne
  primary h hflow := by
    rcases (sortGuarded_ok h).2 with ⟨target, -, he, -⟩ | ⟨hrole, -⟩
    · exact absurd he hflow
    · exact ⟨_, by rw [Slot.primary?, hrole], rfl⟩

theorem SlotsOf.mono {t' : Trace signer} (h : SlotsOf copy sort user t items keys slots) (ht : t ⊆ t') :
    SlotsOf copy sort user t' items keys slots where
  keys_length := h.keys_length
  slots_length := h.slots_length
  each i item key slot hi hk hs :=
    let ⟨hkey, hrest⟩ := h.each i item key slot hi hk hs
    ⟨hkey.mono ht, hrest⟩

/-- What a slot was made from. -/
theorem SlotsOf.of_slot (h : SlotsOf copy sort user t items keys slots) {i : ℕ} {slot : Slot}
    (hs : slots[i]? = some slot) : ∃ item key, items[i]? = some item ∧ keys[i]? = some key ∧
      KeyOf user t item key ∧ ∃ prepared txn, item.transaction = some prepared ∧ copy prepared = .ok txn ∧
        sort i item txn key = .ok slot := by
  obtain ⟨hlt, -⟩ := List.getElem?_eq_some_iff.mp hs
  have hi := List.getElem?_eq_getElem (h.slots_length ▸ hlt : i < items.length)
  have hk := List.getElem?_eq_getElem (h.keys_length ▸ h.slots_length ▸ hlt : i < keys.length)
  exact ⟨_, _, hi, hk, h.each i _ _ slot hi hk hs⟩

theorem SlotsOf.of_item (h : SlotsOf copy sort user t items keys slots) {i : ℕ} {item : PreparedTransaction}
    (hi : items[i]? = some item) : ∃ slot, slots[i]? = some slot := by
  obtain ⟨hlt, -⟩ := List.getElem?_eq_some_iff.mp hi
  exact ⟨_, List.getElem?_eq_getElem (h.slots_length ▸ hlt : i < slots.length)⟩

theorem sortSlots_ok {slotFlow : ℕ → PreparedTransaction → Flow Slot}
    (hslot : ∀ i item t slot, Runs (slotFlow i item) t (.ok slot) → ∃ key prepared txn,
      KeyOf user t item key ∧ item.transaction = some prepared ∧ copy prepared = .ok txn ∧
        sort i item txn key = .ok slot)
    (h : Runs (sortSlots slotFlow items) t (.ok slots)) :
    ∃ keys, SlotsOf copy sort user t items keys slots := by
  obtain ⟨hlen, heach⟩ := runs_collect_ok h
  rw [List.length_zipIdx] at hlen
  have hslots : ∀ p ∈ items.zipIdx.zip slots, ∃ key, KeyOf user t p.1.1 key ∧ ∃ prepared txn,
      p.1.1.transaction = some prepared ∧ copy prepared = .ok txn ∧ sort p.1.2 p.1.1 txn key = .ok p.2 := by
    intro p hp
    obtain ⟨i, hi⟩ := List.mem_iff_getElem?.mp hp
    obtain ⟨hx, hy⟩ := List.getElem?_zip_eq_some.mp hi
    obtain ⟨t', ht', hrun⟩ := heach i p.1 p.2 hx hy
    obtain ⟨key, prepared, txn, hkey, hrest⟩ := hslot _ _ _ _ hrun
    exact ⟨key, hkey.mono ht', prepared, txn, hrest⟩
  obtain ⟨keys, hklen, hkeys⟩ := exists_choices hslots
  refine ⟨keys, by simp [hklen, hlen], hlen, fun i item key slot hi hk hs => ?_⟩
  exact hkeys i ((item, i), slot) key (List.getElem?_zip_eq_some.mpr ⟨by simp [hi], hs⟩) hk

variable {flow : String}

/-- A key of the flow makes its position a target. -/
theorem SlotsOf.mem_targets (h : SlotsOf copy sort user t items keys slots) (hsorts : Sorts flow sort) {i : ℕ}
    {item : PreparedTransaction} {key : KeyInfo} (hi : items[i]? = some item) (hk : keys[i]? = some key)
    (hflow : key.signingFlow = flow) : ∃ target ∈ slots.filterMap Slot.target?,
      target.targetIndex = i ∧ target.guardedAccount = item.authAddress := by
  obtain ⟨slot, hs⟩ := h.of_item hi
  obtain ⟨-, _, _, -, -, hsort⟩ := h.each i item key slot hi hk hs
  obtain ⟨target, ht, hrest⟩ := hsorts.target hsort hflow
  exact ⟨target, List.mem_filterMap.mpr ⟨slot, List.mem_of_getElem? hs, ht⟩, hrest⟩

theorem SlotsOf.mem_primaries (h : SlotsOf copy sort user t items keys slots) (hsorts : Sorts flow sort) {i : ℕ}
    {item : PreparedTransaction} {key : KeyInfo} (hi : items[i]? = some item) (hk : keys[i]? = some key)
    (hflow : key.signingFlow ≠ flow) :
    (i : ℤ) ∈ (slots.filterMap Slot.primary?).map (·.targetIndex) := by
  obtain ⟨slot, hs⟩ := h.of_item hi
  obtain ⟨-, _, _, -, -, hsort⟩ := h.each i item key slot hi hk hs
  obtain ⟨p, hp, he⟩ := hsorts.primary hsort hflow
  exact List.mem_map.mpr ⟨p, List.mem_filterMap.mpr ⟨slot, List.mem_of_getElem? hs, hp⟩, he⟩

/-- The target of a slot has the position of the slot. -/
theorem SlotsOf.target_index (h : SlotsOf copy sort user t items keys slots) (hsorts : Sorts flow sort) {i : ℕ}
    {slot : Slot} {target : GuardedSignTarget} (hs : slots[i]? = some slot)
    (ht : slot.target? = some target) : target.targetIndex = i := by
  obtain ⟨item, key, -, -, -, _, _, -, -, hsort⟩ := h.of_slot hs
  by_cases hflow : key.signingFlow = flow
  · obtain ⟨target', ht', hi, -⟩ := hsorts.target hsort hflow
    rw [Option.some.inj (ht.symm.trans ht'), hi]
  · obtain ⟨p, hp, -⟩ := hsorts.primary hsort hflow
    unfold Slot.target? at ht
    unfold Slot.primary? at hp
    split at ht <;> simp_all

theorem SlotsOf.targets_nodup (h : SlotsOf copy sort user t items keys slots) (hsorts : Sorts flow sort) :
    ((slots.filterMap Slot.target?).map (·.targetIndex)).Nodup := by
  rw [List.Nodup, List.pairwise_map, List.pairwise_filterMap, List.pairwise_iff_getElem]
  intro i j hi hj hlt a ha b hb he
  rw [h.target_index hsorts (List.getElem?_eq_getElem hi) ha,
    h.target_index hsorts (List.getElem?_eq_getElem hj) hb] at he
  omega

/-- The primary target of a slot has the position of the slot. -/
theorem SlotsOf.primary_index (h : SlotsOf copy sort user t items keys slots) (hsorts : Sorts flow sort) {i : ℕ}
    {slot : Slot} {p : GuardedPrimarySignTarget} (hs : slots[i]? = some slot)
    (hp : slot.primary? = some p) : p.targetIndex = i := by
  obtain ⟨item, key, -, -, -, _, _, -, -, hsort⟩ := h.of_slot hs
  by_cases hflow : key.signingFlow = flow
  · obtain ⟨target, ht, -⟩ := hsorts.target hsort hflow
    unfold Slot.target? at ht
    unfold Slot.primary? at hp
    split at ht <;> simp_all
  · obtain ⟨p', hp', hi⟩ := hsorts.primary hsort hflow
    rw [Option.some.inj (hp.symm.trans hp'), hi]

theorem SlotsOf.primaries_nodup (h : SlotsOf copy sort user t items keys slots) (hsorts : Sorts flow sort) :
    ((slots.filterMap Slot.primary?).map (·.targetIndex)).Nodup := by
  rw [List.Nodup, List.pairwise_map, List.pairwise_filterMap, List.pairwise_iff_getElem]
  intro i j hi hj hlt a ha b hb he
  rw [h.primary_index hsorts (List.getElem?_eq_getElem hi) ha,
    h.primary_index hsorts (List.getElem?_eq_getElem hj) hb] at he
  omega

/-- The target with the position of a slot is that of the slot. -/
theorem SlotsOf.target_at (h : SlotsOf copy sort user t items keys slots) (hsorts : Sorts flow sort) {i : ℕ}
    {slot : Slot} {target : GuardedSignTarget} (hs : slots[i]? = some slot)
    (hmem : target ∈ slots.filterMap Slot.target?) (hi : target.targetIndex = i) :
    slot.target? = some target := by
  obtain ⟨slot', hslot', ht⟩ := List.mem_filterMap.mp hmem
  obtain ⟨j, hj⟩ := List.mem_iff_getElem?.mp hslot'
  have hij : j = i := Int.ofNat_inj.mp ((h.target_index hsorts hj ht).symm.trans hi)
  rw [hij, hs] at hj
  rw [Option.some.inj hj, ht]

end Sorting

/-! ### Sides -/

/-- A round of component requests of one kind covered the targets, each in a
request of the party it belongs to. -/
structure Side (calls : Calls) (kind : ComponentTargetKind)
    (belongs : GuardedSignTarget → Asking → ComponentTarget → Prop) (targets : List GuardedSignTarget)
    (t : Trace signer) (responses : List ComponentResponse) (asks : List Asking) : Prop where
  round : ∃ requests, Round calls requests t responses asks ∧ NamesOnce requests
  kinds : ∀ a ∈ asks, ∀ x ∈ a.req.targets, x.kind = kind
  named : ∀ target ∈ targets, ∃ a ∈ asks, ∃ x ∈ a.req.targets,
    x.targetIndex = target.targetIndex ∧ belongs target a x

/-- The user signer is asked with the account of the target. -/
def OfUser (user : Client) (target : GuardedSignTarget) (a : Asking) (x : ComponentTarget) : Prop :=
  a.client = user ∧ x.authAddress = target.guardedAccount

/-- The cosigner that the target resolves to is asked, with its component key. -/
def OfCosigner (d : Dialect) (cosigner : CosignerOptions) (target : GuardedSignTarget) (a : Asking)
    (x : ComponentTarget) : Prop :=
  resolveGuardedCosigner d cosigner target = .ok (some a.client, x.componentKey)

/-- The primary signer answered for the positions `indices`, and `items` are
its answers. -/
structure PrimarySide (calls : Calls) (user : Client) (indices : List ℤ) (t : Trace signer)
    (items : List AssemblyPassthroughItem) : Prop where
  unasked : indices = [] → items = []
  asked : indices ≠ [] → ∃ req reply resp, (⟨.sign user req, reply⟩ : Exchange) ∈ t ∧
    calls.acceptSign req reply = .ok resp ∧
    (∀ e ∈ t, exchangeKind e = .sign → e = ⟨.sign user req, reply⟩) ∧
    (∀ i ∈ indices, resp.signed.getD i.toNat "" ≠ "") ∧
    items = (sortIndices indices).map fun i =>
      { targetIndex := i, signedTxnHex := resp.signed.getD i.toNat "" }

section Sides

variable {d : Dialect} {user : Client} {frame : ComponentFrame} {targets : List GuardedSignTarget}
  {t t' : Trace signer} {responses : List ComponentResponse} {asks : List Asking}

theorem Side.extend {calls : Calls} {kind : ComponentTargetKind}
    {belongs : GuardedSignTarget → Asking → ComponentTarget → Prop}
    (h : Side calls kind belongs targets t responses asks) (ht : t ⊆ t')
    (hother : ∀ e ∈ t', IsComponents e → e ∈ t) : Side calls kind belongs targets t' responses asks where
  round :=
    let ⟨requests, hround, honce⟩ := h.round
    ⟨requests, hround.extend ht hother, honce⟩
  kinds := h.kinds
  named := h.named

theorem Side.imp {calls : Calls} {kind : ComponentTargetKind}
    {belongs belongs' : GuardedSignTarget → Asking → ComponentTarget → Prop}
    (h : Side calls kind belongs targets t responses asks)
    (himp : ∀ target a x, belongs target a x → belongs' target a x) :
    Side calls kind belongs' targets t responses asks where
  round := h.round
  kinds := h.kinds
  named target ht :=
    let ⟨a, ha, x, hx, hi, hb⟩ := h.named target ht
    ⟨a, ha, x, hx, hi, himp target a x hb⟩

theorem PrimarySide.extend {calls : Calls} {indices : List ℤ} {items : List AssemblyPassthroughItem}
    (h : PrimarySide calls user indices t items) (ht : t ⊆ t')
    (hother : ∀ e ∈ t', exchangeKind e = .sign → e ∈ t) : PrimarySide calls user indices t' items where
  unasked := h.unasked
  asked hne :=
    let ⟨req, reply, resp, hsent, hacc, honly, hrest⟩ := h.asked hne
    ⟨req, reply, resp, ht hsent, hacc, fun e he hkind => honly e (hother e he hkind) hkind, hrest⟩

theorem mem_componentRequestForIndices (d : Dialect) (frame : ComponentFrame) (kind : ComponentTargetKind)
    (key : String) {indices : List ℤ} {i : ℤ} (hi : i ∈ indices) :
    ∃ x ∈ (componentRequestForIndices d frame kind key indices).targets, x.targetIndex = i ∧
      (kind = .user → x.authAddress = key) ∧ (kind ≠ .user → x.componentKey = key) := by
  refine ⟨_, List.mem_map_of_mem hi, rfl, fun hk => ?_, fun hk => ?_⟩
  · exact if_pos hk
  · exact if_neg hk

theorem kind_componentRequestForIndices {kind : ComponentTargetKind} {key : String} {indices : List ℤ}
    {x : ComponentTarget} (hx : x ∈ (componentRequestForIndices d frame kind key indices).targets) :
    x.kind = kind := by
  obtain ⟨i, -, rfl⟩ := List.mem_map.mp hx
  rfl

/-- A user phase that succeeded. -/
theorem userSide (hl : d.Lawful) (hn : (targets.map (·.targetIndex)).Nodup)
    (h : Runs (requestUserComponentSignatures d user frame targets) t (.ok responses)) :
    ∃ asks, Side d.calls .user (OfUser user) targets t responses asks := by
  obtain ⟨asks, hround⟩ := userRound hl h
  refine ⟨asks, ⟨_, hround, namesOnce_userRequests hn⟩, fun a ha x hx => ?_, fun target ht => ?_⟩
  · obtain ⟨p, -, he⟩ := List.mem_map.mp (hround.mem_requests ha)
    rw [← (Prod.mk.inj he).2] at hx
    exact kind_componentRequestForIndices hx
  · obtain ⟨indices, hi, hreq⟩ := mem_userRequests d user frame ht
    obtain ⟨a, ha, hclient, hreq⟩ := hround.exists_asking hreq
    obtain ⟨x, hx, hxi, hacc, -⟩ := mem_componentRequestForIndices d frame .user
      target.guardedAccount hi
    exact ⟨a, ha, x, hreq ▸ hx, hxi, (Option.some.inj hclient).symm, hacc rfl⟩

/-- A cosigner phase that succeeded. -/
theorem cosignerSide (hl : d.Lawful) {cosigner : CosignerOptions}
    (hn : (targets.map (·.targetIndex)).Nodup)
    (h : Runs (requestCosignerComponentSignatures d cosigner frame targets) t (.ok responses)) :
    ∃ asks, Side d.calls .cosigner (OfCosigner d cosigner) targets t responses asks := by
  obtain ⟨resolved, groups, asks, hres, hperm, hround⟩ := cosignerRound hl h
  refine ⟨asks, ⟨_, hround, namesOnce_cosignerRequests hn hres hperm⟩, fun a ha x hx => ?_,
    fun target ht => ?_⟩
  · obtain ⟨g, -, he⟩ := List.mem_map.mp (hround.mem_requests ha)
    rw [← (Prod.mk.inj he).2] at hx
    exact kind_componentRequestForIndices hx
  · obtain ⟨client, key, indices, hr, hi, hreq⟩ := mem_cosignerRequests frame hres hperm ht
    obtain ⟨a, ha, rfl, hasked⟩ := hround.exists_asking hreq
    obtain ⟨x, hx, hxi, -, hkey⟩ := mem_componentRequestForIndices d frame .cosigner key hi
    refine ⟨a, ha, x, hasked ▸ hx, hxi, ?_⟩
    rw [OfCosigner, hr, hkey (by decide)]

theorem mem_baseComponentRequest (group : List String) {slots : List Slot} {i : ℕ} {slot : Slot}
    {target : GuardedSignTarget} (hs : slots[i]? = some slot) (ht : slot.target? = some target) :
    ∃ x ∈ (baseComponentRequest group slots).targets, x.targetIndex = i := by
  have hmem : (slot, i) ∈ slots.zipIdx := List.mem_zipIdx_iff_getElem?.mpr hs
  exact ⟨_, List.mem_filterMap.mpr ⟨(slot, i), hmem, by rw [ht]; rfl⟩, rfl⟩

/-- The base request of a bounded group, answered. -/
theorem baseSide (hl : d.Lawful) {group : List String} {slots : List Slot} {base : ComponentResponse}
    (hindex : ∀ (i : ℕ) slot target, slots[i]? = some slot → slot.target? = some target →
      target.targetIndex = i)
    (h : Runs (requestComponents d.calls user (baseComponentRequest group slots)) t (.ok base)) :
    ∃ asks, Side d.calls .boundedBase (fun _ a _ => a.client = user) (slots.filterMap Slot.target?) t
      [base] asks := by
  obtain ⟨id, reply, hasked⟩ := requestComponents_ok hl.calls h
  have hround := Round.nil.cons (a := ⟨user, baseComponentRequest group slots, t, base, id, reply⟩) hasked
  obtain ⟨_, hok⟩ := hl.calls.componentRequest hasked.valid
  refine ⟨_, ⟨_, List.append_nil t ▸ hround, ?_⟩, fun a ha x hx => ?_, fun target ht => ?_⟩
  · rw [NamesOnce, List.flatMap_cons, List.flatMap_nil, List.append_nil]
    exact (List.nodup_append.mp hok.nodup).1
  · rw [List.mem_singleton.mp ha] at hx
    obtain ⟨p, -, hp⟩ := List.mem_filterMap.mp hx
    obtain ⟨_, -, rfl⟩ := Option.map_eq_some_iff.mp hp
    rfl
  · obtain ⟨slot, hs, htarget⟩ := List.mem_filterMap.mp ht
    obtain ⟨i, hi⟩ := List.mem_iff_getElem?.mp hs
    obtain ⟨x, hx, hxi⟩ := mem_baseComponentRequest group hi htarget
    exact ⟨_, List.mem_singleton_self _, x, hx, hxi.trans (hindex i slot target hi htarget).symm, rfl⟩

theorem normalizeAll_ok (hl : d.Lawful) {items out : List AssemblyPassthroughItem}
    (h : mapEach (fun _ => d.normalizePassthrough) 0 items = .ok out) : out = items := by
  have hf : ∀ x y, d.normalizePassthrough x = .ok y ↔ d.normalizePassthrough x = .ok x ∧ y = id x :=
    fun x y => ⟨fun hx => by cases hl.normalize hx; exact ⟨hx, rfl⟩, fun hx => hx.2 ▸ hx.1⟩
  rw [((mapEach_pure hf).mp h).1, List.map_id]

/-- The primary phase of a guarded group that succeeded. -/
theorem guardedPrimary_ok (hl : d.Lawful) {opts : GuardedSignOptions}
    {out : Option GroupSignResponse × List AssemblyPassthroughItem}
    (h : Runs (guardedPrimary d opts user targets) t (.ok out)) : ∃ items,
      out.2 = opts.passthrough ++ items ∧
      PrimarySide d.calls user (opts.primaryTargets.map (·.targetIndex)) t items := by
  obtain ⟨passthrough, hpass, h⟩ := runs_lift_bind_ok.mp h
  obtain rfl := normalizeAll_ok hl hpass
  split at h
  · rename_i hnone
    cases h.2
    refine ⟨[], (List.append_nil _).symm, fun _ => rfl, fun hne => absurd ?_ hne⟩
    rw [hnone, List.map_nil]
  · rename_i hsome
    obtain ⟨⟨response, items⟩, t₁, t₂, rfl, hreq, rfl, hout⟩ := runs_bind_ok.mp h
    cases hout
    obtain ⟨requests, -, hrun⟩ := runs_lift_bind_ok.mp hreq
    obtain ⟨resp, t₃, t₄, rfl, hsign, hrest⟩ := runs_bind_ok.mp hrun
    obtain ⟨items', hitems, rfl, hout⟩ := runs_lift_bind_ok.mp hrest
    cases hout
    obtain ⟨id, reply, hsent, hacc, honly⟩ := signGroup_ok hsign
    obtain ⟨rfl, hall⟩ := forwardAll_ok.mp hitems
    refine ⟨_, rfl, fun he => absurd (List.map_eq_nil_iff.mp he) hsome, fun _ => ?_⟩
    simp only [List.append_nil]
    exact ⟨_, reply, response, hsent, hacc, honly, List.forall_mem_map.mpr fun p hp => (hall p hp).1, rfl⟩

/-- The primary phase of a bounded group that succeeded. -/
theorem boundedPrimary_ok {group : List String} {slots : List Slot}
    {out : Option GroupSignResponse × List AssemblyPassthroughItem}
    (h : Runs (requestBoundedPrimaryPassthrough d user group slots) t (.ok out)) :
    PrimarySide d.calls user ((slots.filterMap Slot.primary?).map (·.targetIndex)) t out.2 := by
  unfold requestBoundedPrimaryPassthrough at h
  dsimp only at h
  split at h
  · rename_i hnone
    cases h.2
    refine ⟨fun _ => rfl, fun hne => absurd ?_ hne⟩
    rw [hnone, List.map_nil]
  · rename_i hsome
    obtain ⟨resp, t₁, t₂, rfl, hsign, hrest⟩ := runs_bind_ok.mp h
    obtain ⟨items, hitems, rfl, hout⟩ := runs_lift_bind_ok.mp hrest
    cases hout
    obtain ⟨id, reply, hsent, hacc, honly⟩ := signGroup_ok (runs_mapError_ok.mp hsign)
    obtain ⟨rfl, hall⟩ := forwardAll_ok.mp hitems
    refine ⟨fun he => absurd (List.map_eq_nil_iff.mp he) hsome, fun _ => ?_⟩
    rw [List.append_nil]
    exact ⟨_, reply, resp, hsent, hacc, honly, List.forall_mem_map.mpr fun p hp => (hall p hp).1, rfl⟩

end Sides

/-! ### The stages of the choreographies -/

section Stages

variable {d : Dialect} {user : Client} {targets : List GuardedSignTarget} {t pre post : Trace signer}
  {e : Exchange}

theorem requireUser_ok {client : Option Client} (h : requireUser d client = .ok user) :
    client = some user := by
  unfold requireUser at h
  split at h <;> cases h
  rfl

theorem guardedPrelude_ok {opts : GuardedSignOptions}
    (h : guardedPrelude d opts = .ok (user, targets)) : opts.userClient = some user ∧
      targets = sortTargets opts.targets ∧ (targets.map (·.targetIndex)).Nodup := by
  simp only [guardedPrelude, bind_eq_ok, pure_eq_ok, Prod.mk.injEq] at h
  obtain ⟨_, huser, _, -, claimed, hclaim, rfl, rfl⟩ := h
  refine ⟨?_, rfl, ?_⟩
  · exact requireUser_ok huser
  · have hcheck : ∀ (k : ℕ) claimed (t : GuardedSignTarget),
        checkGuardedTarget d opts.groupBytesHex.length claimed t = .ok () ↔
          ((0 ≤ t.targetIndex ∧ t.targetIndex < opts.groupBytesHex.length) ∧ t.targetIndex ∉ claimed) ∧
            t.guardedAccount ≠ "" ∧ d.checkTargetResources t.targetIndex t.logicSigResources = .ok () := by
      intro k claimed t
      simp only [checkGuardedTarget, seq_eq_ok, failIf_ok, not_or, Int.not_lt, Int.not_le, and_assoc, ne_eq]
    exact ((claimAll_ok (R := fun i => 0 ≤ i ∧ i < (opts.groupBytesHex.length : ℤ))
      (E := fun _ t => t.guardedAccount ≠ "" ∧
        d.checkTargetResources t.targetIndex t.logicSigResources = .ok ()) hcheck).mp hclaim).2.2.1

theorem onlyKinds_planSlots {slot : Client → ℕ → PreparedTransaction → Flow Slot} {noTargets : String}
    {wrap : SdkError → SdkError} {check : List Slot → PlanGroupResponse → Except SdkError (List Txn)}
    {opts : PreparedGuardedGroupOptions} (hslot : ∀ user i item, OnlyKinds [.key] (slot user i item)) :
    OnlyKinds [.key, .plan] (planSlots d slot noTargets wrap check opts) := by
  refine emits_bind (emits_lift _) fun user => emits_bind (emits_lift _) fun _ => emits_bind ?_
    fun slots => emits_bind (emits_lift _) fun _ => emits_bind ?_ fun plan =>
      emits_bind (emits_lift _) fun _ => emits_pure _
  · exact emits_collect _ fun p _ => (hslot user p.2 p.1).mono (by simp)
  · exact emits_mapError (onlyKinds_planRequests.mono (by simp))

theorem onlyKinds_boundedSlot {rules : SlotRules} {i : ℕ} {item : PreparedTransaction} :
    OnlyKinds [.key] (boundedSlot rules user i item) :=
  emits_bind (emits_lift _) fun _ => emits_bind onlyKinds_lookupKey fun _ => emits_lift _

theorem onlyKinds_guardedSlot {rules : SlotRules} {i : ℕ} {item : PreparedTransaction} :
    OnlyKinds [.key] (guardedSlot rules user i item) :=
  emits_bind (emits_lift _) fun _ => emits_bind (emits_lift _) fun _ =>
    emits_bind onlyKinds_lookupKey fun _ => emits_lift _

theorem onlyKinds_planBounded {opts : PreparedGuardedGroupOptions} :
    OnlyKinds [.key, .plan] (planBounded d opts) :=
  onlyKinds_planSlots fun _ _ _ => onlyKinds_boundedSlot

theorem onlyKinds_buildGuarded {opts : PreparedGuardedGroupOptions} :
    OnlyKinds [.key, .plan] (buildPreparedGuardedSignOptions d opts) :=
  emits_bind (onlyKinds_planSlots fun _ _ _ => onlyKinds_guardedSlot) fun _ =>
    emits_bind (emits_lift _) fun _ => emits_pure _

theorem onlyKinds_base {group : List String} {slots : List Slot} :
    OnlyKinds [.id, .userComponents] (requestComponents d.calls user (baseComponentRequest group slots)) := by
  refine onlyKinds_requestComponents (by simp) fun reply => ?_
  have hkind : (baseComponentRequest group slots).targets.any (·.kind = .cosigner) = false := by
    rw [List.any_eq_false]
    intro x hx
    obtain ⟨p, -, hp⟩ := List.mem_filterMap.mp hx
    obtain ⟨_, -, rfl⟩ := Option.map_eq_some_iff.mp hp
    simp
  simp [exchangeKind, hkind]

theorem onlyKinds_boundedPrimary {group : List String} {slots : List Slot} :
    OnlyKinds [.id, .sign] (requestBoundedPrimaryPassthrough d user group slots) := by
  unfold requestBoundedPrimaryPassthrough
  dsimp only
  split
  · exact emits_pure _
  · exact emits_bind (emits_mapError onlyKinds_signGroup) fun _ =>
      emits_bind (emits_lift _) fun _ => emits_pure _

/-- A plan that passed its checks: `copy`, `sort` and `check` are those of
the choreography. -/
structure Planned (copy : Txn → Except SdkError Txn) (sort : SortSlot)
    (check : List Slot → PlanGroupResponse → Except SdkError (List Txn))
    (opts : PreparedGuardedGroupOptions) (t : Trace signer) (user : Client) (keys : List KeyInfo)
    (slots : List Slot) (plan : PlanGroupResponse) (planned : List Txn) : Prop where
  client : opts.userClient = some user
  sorted : SlotsOf copy sort user t opts.transactions keys slots
  sent : ∃ reply, (⟨.plan user (slots.map (·.request)), reply⟩ : Exchange) ∈ t ∧ reply.okBody = some plan
  checked : check slots plan = .ok planned

abbrev BoundedPlan (d : Dialect) := Planned .ok (sortBounded d.rules) (checkBoundedPlan d)

abbrev GuardedPlan (d : Dialect) := Planned d.rules.clone (sortGuarded d.rules) (checkGuardedPlan d)

theorem Planned.mono {copy : Txn → Except SdkError Txn} {sort : SortSlot}
    {check : List Slot → PlanGroupResponse → Except SdkError (List Txn)}
    {opts : PreparedGuardedGroupOptions} {keys : List KeyInfo} {slots : List Slot}
    {plan : PlanGroupResponse} {planned : List Txn} {t' : Trace signer}
    (h : Planned copy sort check opts t user keys slots plan planned) (ht : t ⊆ t') :
    Planned copy sort check opts t' user keys slots plan planned where
  client := h.client
  sorted := h.sorted.mono ht
  sent :=
    let ⟨reply, hsent, hbody⟩ := h.sent
    ⟨reply, ht hsent, hbody⟩
  checked := h.checked

theorem planRequests_ok (hl : d.Lawful) {requests : List SignRequest} {plan : PlanGroupResponse}
    (h : Runs (planRequests d.calls user requests) t (.ok plan)) :
    ∃ reply, (⟨.plan user requests, reply⟩ : Exchange) ∈ t ∧ reply.okBody = some plan := by
  obtain ⟨_, t₁, reply, -, -, rfl, hacc⟩ := runs_exchange_ok.mp h
  exact ⟨reply, by simp, hl.calls.plan hacc⟩

theorem planSlots_ok (hl : d.Lawful) (copy : Txn → Except SdkError Txn) (sort : SortSlot)
    {check : List Slot → PlanGroupResponse → Except SdkError (List Txn)}
    {slot : Client → ℕ → PreparedTransaction → Flow Slot} {noTargets : String} {wrap : SdkError → SdkError}
    (hslot : ∀ user i item t out, Runs (slot user i item) t (.ok out) → ∃ key prepared txn,
      KeyOf user t item key ∧ item.transaction = some prepared ∧ copy prepared = .ok txn ∧
        sort i item txn key = .ok out)
    {opts : PreparedGuardedGroupOptions} {slots : List Slot} {group : List String} {planned : List Txn}
    (h : Runs (planSlots d slot noTargets wrap check opts) t (.ok (user, slots, group, planned))) :
    ∃ keys plan, group = plan.transactions ∧
      Planned copy sort check opts t user keys slots plan planned := by
  obtain ⟨user', huser, h⟩ := runs_lift_bind_ok.mp h
  obtain ⟨_, -, h⟩ := runs_lift_bind_ok.mp h
  obtain ⟨slots', t₁, t₂, rfl, hslots, hrest⟩ := runs_bind_ok.mp h
  obtain ⟨_, -, hrest⟩ := runs_lift_bind_ok.mp hrest
  obtain ⟨plan, t₃, t₄, rfl, hplan, hcheck⟩ := runs_bind_ok.mp hrest
  obtain ⟨planned', hchecked, rfl, hout⟩ := runs_lift_bind_ok.mp hcheck
  cases hout
  obtain ⟨keys, hkeys⟩ := sortSlots_ok (hslot user) hslots
  obtain ⟨reply, hsent, hbody⟩ := planRequests_ok hl (runs_mapError_ok.mp hplan)
  exact ⟨keys, plan, rfl, requireUser_ok huser, hkeys.mono (List.subset_append_left ..),
    ⟨reply, by simp [hsent], hbody⟩, hchecked⟩

theorem planBounded_ok (hl : d.Lawful) {opts : PreparedGuardedGroupOptions} {slots : List Slot}
    {group : List String} {planned : List Txn}
    (h : Runs (planBounded d opts) t (.ok (user, slots, group, planned))) :
    ∃ keys plan, group = plan.transactions ∧ BoundedPlan d opts t user keys slots plan planned :=
  planSlots_ok hl .ok (sortBounded d.rules) (fun _ _ _ _ _ hrun =>
    let ⟨key, txn, hkey, htxn, hsort⟩ := boundedSlot_ok hrun
    ⟨key, txn, txn, hkey, htxn, rfl, hsort⟩) h

/-- The options of the guarded choreography are those of a checked plan. -/
theorem buildGuarded_ok (hl : d.Lawful) {opts : PreparedGuardedGroupOptions} {out : GuardedSignOptions}
    (h : Runs (buildPreparedGuardedSignOptions d opts) t (.ok out)) :
    ∃ user keys slots plan planned, GuardedPlan d opts t user keys slots plan planned ∧
      out.userClient = some user ∧ out.cosigner = opts.cosigner ∧
      out.groupBytesHex = planned.map (fun txn => hexEncode (d.codec.sdk.encodeTxn txn)) ∧
      out.targets = slots.filterMap Slot.target? ∧ out.primaryTargets = slots.filterMap Slot.primary? := by
  unfold buildPreparedGuardedSignOptions at h
  obtain ⟨⟨user, slots, group, planned⟩, t₁, t₂, rfl, hplan, hrest⟩ := runs_bind_ok.mp h
  obtain ⟨dummies, -, rfl, hout⟩ := runs_lift_bind_ok.mp hrest
  cases hout
  obtain ⟨keys, plan, -, hplanned⟩ := planSlots_ok hl d.rules.clone (sortGuarded d.rules)
    (fun _ _ _ _ _ => guardedSlot_ok) hplan
  exact ⟨user, keys, slots, plan, planned, hplanned.mono (List.subset_append_left ..), rfl, rfl, rfl, rfl, rfl⟩

theorem checkBoundedPlan_ok {slots : List Slot} {plan : PlanGroupResponse} {planned : List Txn}
    (h : checkBoundedPlan d slots plan = .ok planned) :
    decodeCanonicalGroup d.codec plan.transactions = .ok planned ∧
      validateBoundedComponentPlan d.codec d.addressFailure (slots.map (·.txn)) planned
        (d.planView plan.mutations) = .ok () ∧
      validateBoundedTargetFees d.maxFeeOk planned (targetMaxFees slots) = .ok () := by
  simp only [checkBoundedPlan, bind_eq_ok, mapErr_ok, pure_eq_ok] at h
  obtain ⟨_, -, _, hdecode, _, hplan, _, hfees, rfl⟩ := h
  exact ⟨hdecode, hplan, hfees⟩

theorem checkGuardedPlan_ok {slots : List Slot} {plan : PlanGroupResponse} {planned : List Txn}
    (h : checkGuardedPlan d slots plan = .ok planned) :
    decodeCanonicalGroup d.codec plan.transactions = .ok planned ∧
      validateBoundedComponentPlan d.codec d.addressFailure (slots.map (·.txn)) planned
        (d.planView plan.mutations) = .ok () := by
  simp only [checkGuardedPlan, bind_eq_ok, mapErr_ok, pure_eq_ok] at h
  obtain ⟨_, hdecode, _, hplan, rfl⟩ := h
  exact ⟨hdecode, hplan⟩

/-- An event of the closing of a choreography. -/
def Closes (e : Exchange) : Prop := exchangeKind e = .cosignerComponents ∨ exchangeKind e = .assemble

theorem kind_ne {t : Trace signer} {kinds : List ExchangeKind} {kind : ExchangeKind}
    (h : ∀ e ∈ t, exchangeKind e ∈ kinds) (hk : kind ∉ kinds) {e : Exchange} (he : e ∈ t) :
    exchangeKind e ≠ kind := fun hkind => hk (hkind ▸ h e he)

theorem OnlyKinds.not_closes {α : Type} {kinds : List ExchangeKind} {p : Flow α} (h : OnlyKinds kinds p)
    (hc : .cosignerComponents ∉ kinds) (ha : .assemble ∉ kinds) : Emits (fun e => ¬ Closes e) p := by
  rintro t r hr e he (hkind | hkind)
  · exact hc (hkind ▸ h t r hr e he)
  · exact ha (hkind ▸ h t r hr e he)

/-- A phase without component exchanges around a round. -/
theorem isComponents_mem (t₁ t₂ t₃ : Trace signer) (kinds kinds' : List ExchangeKind)
    (h₁ : ∀ e ∈ t₁, exchangeKind e ∈ kinds) (h₃ : ∀ e ∈ t₃, exchangeKind e ∈ kinds')
    (hu : .userComponents ∉ kinds ++ kinds') (hc : .cosignerComponents ∉ kinds ++ kinds') :
    ∀ e ∈ t₁ ++ (t₂ ++ t₃), IsComponents e → e ∈ t₂ := by
  rw [List.mem_append, not_or] at hu hc
  intro e he hcomp
  rcases List.mem_append.mp he with he | he
  · exact absurd hcomp (not_isComponents (h₁ e he) hu.1 hc.1)
  · rcases List.mem_append.mp he with he | he
    · exact he
    · exact absurd hcomp (not_isComponents (h₃ e he) hu.2 hc.2)

/-- A guarded run that reached its closing, with the user side behind it. -/
theorem guarded_stage (hl : d.Lawful) {opts : GuardedSignOptions} {r : Except SdkError GuardedSignResult}
    (h : Runs (signGuardedGroup d opts) (pre ++ e :: post) r) (he : Closes e) :
    ∃ user targets responses asks items u pre' r',
      guardedPrelude d opts = .ok (user, targets) ∧ pre = u ++ pre' ∧
      Side d.calls .user (OfUser user) targets u responses asks ∧
      PrimarySide d.calls user (opts.primaryTargets.map (·.targetIndex)) u items ∧
      Runs (cosignAndAssemble d (guardedClosing d opts user targets responses (opts.passthrough ++ items)))
        (pre' ++ e :: post) r' := by
  rcases runs_lift_bind.mp h with ⟨_, -, hnil, -⟩ | ⟨⟨user, targets⟩, hpre, h⟩
  · simp at hnil
  obtain ⟨responses, t₁, pre₁, rfl, huser, h⟩ :=
    runs_bind_split (onlyKinds_userPhase.not_closes (by decide) (by decide)) he h
  obtain ⟨⟨response, passthrough⟩, t₂, pre₂, rfl, hprimary, h⟩ :=
    runs_bind_split (onlyKinds_guardedPrimary.not_closes (by decide) (by decide)) he h
  obtain ⟨r', hclosing⟩ := runs_bind_quiet (fun _ => emits_pure _) h
  obtain ⟨asks, hside⟩ := userSide hl (guardedPrelude_ok hpre).2.2 huser
  obtain ⟨items, hitems, hsigned⟩ := guardedPrimary_ok hl hprimary
  have hkinds₁ := onlyKinds_userPhase t₁ _ huser
  have hkinds₂ := onlyKinds_guardedPrimary t₂ _ hprimary
  refine ⟨user, targets, responses, asks, items, t₁ ++ t₂, pre₂, r', hpre, (List.append_assoc ..).symm,
    ?_, ?_, hitems ▸ hclosing⟩
  · refine hside.extend (List.subset_append_left ..) ?_
    exact isComponents_mem [] _ _ [] _ (by simp) hkinds₂ (by decide) (by decide)
  · refine hsigned.extend (List.subset_append_right ..) fun e he hkind => ?_
    rcases List.mem_append.mp he with he | he
    · exact absurd hkind (kind_ne hkinds₁ (by decide) he)
    · exact he

/-- A bounded run that reached its closing, with plan and user side behind it. -/
theorem bounded_stage (hl : d.Lawful) {opts : PreparedGuardedGroupOptions}
    {r : Except SdkError GuardedSignResult}
    (h : Runs (signPreparedBoundedCosignerGroup d opts) (pre ++ e :: post) r) (he : Closes e) :
    ∃ user keys slots plan planned base asks items u pre' r',
      BoundedPlan d opts u user keys slots plan planned ∧ pre = u ++ pre' ∧
      Side d.calls .boundedBase (fun _ a _ => a.client = user) (slots.filterMap Slot.target?) u [base] asks ∧
      PrimarySide d.calls user ((slots.filterMap Slot.primary?).map (·.targetIndex)) u items ∧
      Runs (cosignAndAssemble d (boundedClosing d opts user slots plan.transactions planned base items))
        (pre' ++ e :: post) r' := by
  obtain ⟨⟨user, slots, group, planned⟩, t₀, pre₀, rfl, hplan, h⟩ :=
    runs_bind_split (onlyKinds_planBounded.not_closes (by decide) (by decide)) he h
  obtain ⟨base, t₁, pre₁, rfl, hbase, h⟩ :=
    runs_bind_split (emits_mapError (onlyKinds_base.not_closes (by decide) (by decide))) he h
  rcases runs_lift_bind.mp h with ⟨_, -, hnil, -⟩ | ⟨_, -, h⟩
  · simp at hnil
  obtain ⟨⟨response, items⟩, t₂, pre₂, rfl, hprimary, h⟩ :=
    runs_bind_split (onlyKinds_boundedPrimary.not_closes (by decide) (by decide)) he h
  obtain ⟨r', hclosing⟩ := runs_bind_quiet (fun _ => emits_pure _) h
  obtain ⟨keys, plan, rfl, hplanned⟩ := planBounded_ok hl hplan
  have hrun := runs_mapError_ok.mp hbase
  obtain ⟨asks, hside⟩ := baseSide hl (fun i slot target hs ht =>
    hplanned.sorted.target_index (sorts_sortBounded d.rules) hs ht) hrun
  have hkinds₀ := onlyKinds_planBounded t₀ _ hplan
  have hkinds₁ := onlyKinds_base t₁ _ hrun
  have hkinds₂ := onlyKinds_boundedPrimary t₂ _ hprimary
  refine ⟨user, keys, slots, plan, planned, base, asks, items, t₀ ++ (t₁ ++ t₂), pre₂, r', ?_, ?_, ?_, ?_,
    hclosing⟩
  · exact hplanned.mono (List.subset_append_left ..)
  · simp only [List.append_assoc]
  · refine hside.extend ?_ (isComponents_mem _ _ _ _ _ hkinds₀ hkinds₂ (by decide) (by decide))
    exact List.Subset.trans (List.subset_append_left ..) (List.subset_append_right ..)
  · refine (boundedPrimary_ok hprimary).extend ?_ fun e he hkind => ?_
    · exact List.Subset.trans (List.subset_append_right ..) (List.subset_append_right ..)
    · rcases List.mem_append.mp he with he | he
      · exact absurd hkind (kind_ne hkinds₀ (by decide) he)
      · rcases List.mem_append.mp he with he | he
        · exact absurd hkind (kind_ne hkinds₁ (by decide) he)
        · exact he

/-- The assembly request of a closing is sent after its cosigner phase. -/
theorem closing_stage (hl : d.Lawful) {c : Closing} {r : Except SdkError (List ComponentResponse × AssemblyResponse)}
    (h : Runs (cosignAndAssemble d c) (pre ++ e :: post) r) (he : exchangeKind e = .assemble) :
    ∃ responses t₁ pre' material id reply, pre = t₁ ++ pre' ∧
      Runs (requestCosignerComponentSignatures d c.cosigner c.frame c.targets) t₁ (.ok responses) ∧
      c.material responses = .ok material ∧ (∀ e ∈ pre', exchangeKind e = .id) ∧
      IdFor .assemble c.assemblyRequestId pre' id ∧
      d.calls.validateAssemblyRequest ((c.request material).sent id) = .ok () ∧
      e = ⟨.assemble c.user ((c.request material).sent id), reply⟩ := by
  have hnot : Emits (fun e => ¬ exchangeKind e = .assemble)
      (requestCosignerComponentSignatures d c.cosigner c.frame c.targets) := by
    exact fun t r hr e he => kind_ne (onlyKinds_cosignerPhase hl t r hr) (by decide) he
  obtain ⟨responses, t₁, pre', rfl, hcosigners, h⟩ := runs_bind_split hnot he h
  rcases runs_lift_bind.mp h with ⟨_, -, hnil, -⟩ | ⟨material, hmaterial, h⟩
  · simp at hnil
  obtain ⟨r', hassemble⟩ := runs_bind_quiet
    (fun _ => emits_bind (emits_lift _) fun _ => emits_pure _) h
  obtain ⟨r'', hrun⟩ := runs_of_mapError hassemble
  have hfresh : ∀ id, Emits (fun e => exchangeKind e = .id) (fillRequestId d.calls "assembly" .assemble id) :=
    fun id => emits_fillRequestId fun _ => rfl
  obtain ⟨id, reply, hfill, hvalid, rfl⟩ := exchange_at
    (fun t r hr e he hkind => absurd ((hfresh _ t r hr e he).symm.trans hkind) (by decide)) he hrun
  exact ⟨responses, t₁, pre', material, id, reply, rfl, hcosigners, hmaterial, hfresh _ _ _ hfill,
    fillRequestId_ok hfill, mapErr_ok.mp hvalid, rfl⟩

end Stages

end AplaneSdk
