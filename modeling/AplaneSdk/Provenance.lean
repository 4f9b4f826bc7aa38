/-
# Where the material of an assembly comes from

Every position of an assembled group is named once, the material of a target
comes from the one exchange of the user signer and the one exchange of its
own cosigner that name the position, and a primary position carries what the
primary signer returned for it. So two runs that agree on the exchanges which
name a position send the same material for it, whatever the other parties
answered.

Key definitions: `Names`, `Source`, `Assembles`.
Key theorems: `Side.source`, `entry_assembles`, `assemblyProvenance`.
-/
import AplaneSdk.Entries

namespace AplaneSdk

open Checks Interaction Interaction.Prog

/-- A component exchange with position `i` as a target of kind `kind`. -/
def Names (kind : ComponentTargetKind) (i : ℤ) (e : Exchange) : Prop :=
  ∃ client req reply, e = ⟨.components client req, reply⟩ ∧
    ∃ x ∈ req.targets, x.targetIndex = i ∧ x.kind = kind

/-- The only exchange in `t` that names position `i` with this kind, and the
component for `i` of its response: `material` is what `of` reads there. -/
structure Source {M : Type} (calls : Calls) (t : Trace signer) (kind : ComponentTargetKind) (i : ℤ)
    (of : Component → String → M) (material : M) (client : Client) (req : ComponentRequest)
    (reply : Reply ComponentResponse) : Prop where
  sent : (⟨.components client req, reply⟩ : Exchange) ∈ t
  names : Names kind i ⟨.components client req, reply⟩
  only : ∀ e ∈ t, Names kind i e → e = ⟨.components client req, reply⟩
  component : ∃ resp c, calls.acceptComponents req reply = .ok resp ∧ resp.requestId = req.requestId ∧
    c ∈ resp.components ∧ c.targetIndex = i ∧ (∀ c' ∈ resp.components, c'.targetIndex = i → c' = c) ∧
    material = of c req.requestId

section Sources

variable {M : Type} {calls : Calls} {kind : ComponentTargetKind}
  {belongs : GuardedSignTarget → Asking → ComponentTarget → Prop} {targets : List GuardedSignTarget}
  {t : Trace signer} {responses : List ComponentResponse} {asks : List Asking}
  {of : Component → String → M} {material : M}

/-- What a side holds for a target comes from the exchange that names it. -/
theorem Side.source (h : Side calls kind belongs targets t responses asks) {target : GuardedSignTarget}
    (hm : target ∈ targets) (hfrom : From of responses target.targetIndex material) :
    ∃ a x, belongs target a x ∧ x ∈ a.req.targets ∧ x.targetIndex = target.targetIndex ∧
      Source calls t kind target.targetIndex of material a.client { a.req with requestId := a.id } a.reply := by
  obtain ⟨requests, hround, honce⟩ := h.round
  obtain ⟨a, ha, x, hx, hi, hbelongs⟩ := h.named target hm
  have hasked := hround.asked a ha
  have hia : target.targetIndex ∈ a.req.indices := List.mem_map.mpr ⟨x, hx, hi⟩
  obtain ⟨resp, hresp, c, hc, hci, rfl⟩ := hfrom
  -- the response that holds the component is the answer to the request that names it
  rw [← hround.responses] at hresp
  obtain ⟨b, hb, rfl⟩ := List.mem_map.mp hresp
  obtain ⟨y, hy, hyi, -⟩ := (hround.asked b hb).components.asked c hc
  have hab := hround.eq_of_index honce ha hb hia (List.mem_map.mpr ⟨y, hy, hyi.trans hci⟩)
  subst hab
  refine ⟨a, x, hbelongs, hx, hi, hround.mem_trace ha, ?_, ?_, a.resp, c, hasked.accepted,
    hasked.requestId, hc, hci, fun c' hc' hci' => ?_, by rw [hasked.requestId]⟩
  · exact ⟨_, _, _, rfl, x, hx, hi, h.kinds a ha x hx⟩
  · rintro e he ⟨client, req, reply, rfl, z, hz, hzi, -⟩
    exact hround.unique honce ha hia he (List.mem_map.mpr ⟨z, hz, hzi⟩)
  · exact List.inj_on_of_nodup_map hasked.components.nodup hc' hc (hci'.trans hci.symm)

/-- The component exchanges of a side have its kind. -/
theorem Side.kind_of_names (h : Side calls kind belongs targets t responses asks) {kind' : ComponentTargetKind}
    {i : ℤ} {e : Exchange} (he : e ∈ t) (hn : Names kind' i e) : kind' = kind := by
  obtain ⟨requests, hround, -⟩ := h.round
  obtain ⟨client, req, reply, rfl, x, hx, -, hk⟩ := hn
  obtain ⟨a, ha, hae⟩ := hround.only client req reply he
  cases (Event.mk.inj hae).1
  exact hk.symm.trans (h.kinds a ha x hx)

theorem Source.extend {i : ℤ} {client : Client} {req : ComponentRequest} {reply : Reply ComponentResponse}
    {t' : Trace signer} (h : Source calls t kind i of material client req reply) (ht : t ⊆ t')
    (hother : ∀ e ∈ t', Names kind i e → e ∈ t) : Source calls t' kind i of material client req reply where
  sent := ht h.sent
  names := h.names
  only e he hn := h.only e (hother e he hn) hn
  component := h.component

/-- Two runs with the same source have the same material. -/
theorem Source.unique {i : ℤ} {client client' : Client} {req req' : ComponentRequest}
    {reply reply' : Reply ComponentResponse} {t' : Trace signer} {material' : M}
    (h : Source calls t kind i of material client req reply)
    (h' : Source calls t' kind i of material' client' req' reply')
    (hshared : ∀ e, Names kind i e → e ∈ t → e ∈ t') : material = material' := by
  cases h'.only _ (hshared _ h.names h.sent) h.names
  obtain ⟨resp, c, hacc, -, hc, hci, -, rfl⟩ := h.component
  obtain ⟨resp', c', hacc', -, -, -, huniq, rfl⟩ := h'.component
  cases hacc.symm.trans hacc'
  rw [huniq c hc hci]

end Sources

/-- The assembly request `req` of a group, after `t`. -/
structure Assembles (d : Dialect) (cosigner : CosignerOptions) (group : Group) (t : Trace signer)
    (req : AssemblyRequest) : Prop where
  /-- Targets and passthrough items name every position once. -/
  partition : req.indices.Perm ((List.range req.groupBytesHex.length).map Nat.cast)
  targets : req.targets.map (·.targetIndex) = group.targets.map (·.targetIndex)
  user : ∀ target ∈ group.targets, ∀ T ∈ req.targets, T.targetIndex = target.targetIndex →
    ∃ asked reply, Source d.calls t group.kind target.targetIndex (userMaterialOf d group.kind)
      T.userMaterial group.user asked reply
  cosigners : ∀ target ∈ group.targets, ∀ T ∈ req.targets, T.targetIndex = target.targetIndex →
    ∃ client key asked reply, resolveGuardedCosigner d cosigner target = .ok (some client, key) ∧
      (∃ x ∈ asked.targets, x.targetIndex = target.targetIndex ∧ x.componentKey = key) ∧
      Source d.calls t .cosigner target.targetIndex cosignerMaterialOf T.cosignerMaterial client asked reply
  /-- Component exchanges are those of the user signer and the cosigners. -/
  kinds : ∀ e ∈ t, ∀ kind i, Names kind i e → kind = group.kind ∨ kind = .cosigner
  primaries : ∀ i ∈ group.primaries, ∃ asked reply resp, (⟨.sign group.user asked, reply⟩ : Exchange) ∈ t ∧
    (∀ e ∈ t, exchangeKind e = .sign → e = ⟨.sign group.user asked, reply⟩) ∧
    d.calls.acceptSign asked reply = .ok resp ∧ (∃ p ∈ req.passthrough, p.targetIndex = i) ∧
    ∀ p ∈ req.passthrough, p.targetIndex = i → resp.signed[i.toNat]? = some p.signedTxnHex

section Assembly

variable {d : Dialect} {pre post : Trace signer} {e : Exchange} {r : Except SdkError GuardedSignResult}

theorem getElem?_of_getD_ne {signed : List String} {i : ℕ} (h : signed.getD i "" ≠ "") :
    signed[i]? = some (signed.getD i "") := by
  rw [List.getD_eq_getElem?_getD] at h ⊢
  cases hs : signed[i]? with
  | none =>
    rw [hs] at h
    exact absurd rfl h
  | some s => rfl

/-- A primary position is passed through as the primary signer returned it. -/
theorem primaries_passthrough {calls : Calls} {user : Client} {indices : List ℤ} {t : Trace signer}
    {items : List AssemblyPassthroughItem} {req : AssemblyRequest}
    (h : PrimarySide calls user indices t items) (hsub : items.map (·.wire) ⊆ req.passthrough)
    (hnodup : (req.passthrough.map (·.targetIndex)).Nodup) : ∀ i ∈ indices, ∃ asked reply resp,
      (⟨.sign user asked, reply⟩ : Exchange) ∈ t ∧
      (∀ e ∈ t, exchangeKind e = .sign → e = ⟨.sign user asked, reply⟩) ∧
      calls.acceptSign asked reply = .ok resp ∧ (∃ p ∈ req.passthrough, p.targetIndex = i) ∧
      ∀ p ∈ req.passthrough, p.targetIndex = i → resp.signed[i.toNat]? = some p.signedTxnHex := by
  intro i hi
  obtain ⟨asked, reply, resp, hsent, hacc, honly, hall, rfl⟩ := h.asked (List.ne_nil_of_mem hi)
  have hitem := hsub (List.mem_map_of_mem (List.mem_map_of_mem ((sortIndices_perm _).mem_iff.mpr hi)))
  refine ⟨asked, reply, resp, hsent, honly, hacc, ⟨_, hitem, rfl⟩, fun p hp hpi => ?_⟩
  rw [List.inj_on_of_nodup_map hnodup hp hitem hpi]
  exact getElem?_of_getD_ne (hall i hi)

/-- The assembly request of an entry. -/
theorem entry_assembles (hl : d.Lawful) (entry : Entry) (h : Runs (entry.flow d) (pre ++ e :: post) r)
    (he : exchangeKind e = .assemble) : ∃ group req reply, entry.Signs pre group ∧
      group.kind ≠ .cosigner ∧ e = ⟨.assemble group.user req, reply⟩ ∧
      Assembles d entry.cosigner group pre req := by
  obtain ⟨group, u, c, responses, asks, items, pre', r', hsigns, rfl, hstage, hrun⟩ :=
    entry_stage hl entry h (Or.inr he)
  obtain ⟨cosigned, t₁, ids, m, id, reply, rfl, hcosigners, hmaterial, hids, -, hvalid, rfl⟩ :=
    closing_stage hl hrun he
  have hkinds₁ := onlyKinds_cosignerPhase hl t₁ _ hcosigners
  rw [hstage.targets, hstage.cosigner_eq] at hcosigners
  obtain ⟨casks, hcside⟩ := cosignerSide hl hstage.nodup hcosigners
  obtain ⟨hitems, hindices, hfrom⟩ := hstage.material hmaterial
  obtain ⟨_, _, hok⟩ := hl.calls.assemblyRequest hvalid
  have hcomponents : ∀ e ∈ ids, ∀ kind i, ¬ Names kind i e := by
    rintro e he kind i ⟨client, req, reply, rfl, -⟩
    have hid := hids _ he
    simp only [exchangeKind] at hid
    split at hid <;> cases hid
  have hsplit : ∀ e ∈ u ++ (t₁ ++ ids), ∀ kind i, Names kind i e →
      e ∈ u ∧ kind = group.kind ∨ e ∈ t₁ ∧ kind = .cosigner := by
    intro e he kind i hn
    rcases List.mem_append.mp he with he | he
    · exact Or.inl ⟨he, hstage.side.kind_of_names he hn⟩
    · rcases List.mem_append.mp he with he | he
      · exact Or.inr ⟨he, hcside.kind_of_names he hn⟩
      · exact absurd hn (hcomponents e he kind i)
  refine ⟨group, _, reply, hsigns.mono (List.subset_append_left ..), hstage.notCosigner,
    by rw [hstage.user], hok.perm, hindices, ?_, ?_, ?_, ?_⟩
  · intro target hm T hT hi
    obtain ⟨a, x, hown, -, -, hsource⟩ := hstage.side.source hm (hi ▸ (hfrom T hT).1)
    rw [hown.1] at hsource
    refine ⟨_, _, hsource.extend (List.subset_append_left ..) fun e he hn => ?_⟩
    rcases hsplit e he _ _ hn with ⟨he, -⟩ | ⟨-, hk⟩
    · exact he
    · exact absurd hk hstage.notCosigner
  · intro target hm T hT hi
    obtain ⟨a, x, hresolved, hx, hxi, hsource⟩ := hcside.source hm (hi ▸ (hfrom T hT).2)
    refine ⟨_, _, { a.req with requestId := a.id }, _, hresolved, ⟨x, hx, hxi, rfl⟩,
      hsource.extend ?_ fun e he hn => ?_⟩
    · exact List.Subset.trans (List.subset_append_left ..) (List.subset_append_right ..)
    · rcases hsplit e he _ _ hn with ⟨-, hk⟩ | ⟨he, -⟩
      · exact absurd hk.symm hstage.notCosigner
      · exact he
  · intro e he kind i hn
    exact (hsplit e he kind i hn).imp And.right And.right
  · refine primaries_passthrough (hstage.primary.extend (List.subset_append_left ..) fun e he hkind => ?_)
      (List.map_subset _ hitems) (List.nodup_append.mp hok.nodup).2.1
    rcases List.mem_append.mp he with he | he
    · exact he
    · rcases List.mem_append.mp he with he | he
      · exact absurd hkind (kind_ne hkinds₁ (by decide) he)
      · exact absurd ((hids e he).symm.trans hkind) (by decide)

end Assembly

end AplaneSdk
