/-
# The user signs first

No cosigner is shown the frozen group before the user side is complete, and
no group is assembled before the cosigners have answered.

Go has decoded what it goes on with (`UserFirst`). For Python and TypeScript
the answers are JSON (`Script.UserFirst`): both test that there is something
at a primary position, and TypeScript's guarded choreography tests nothing
else. There the user side is complete where that something is a text.

Key definitions: `UserComplete`, `CosignersComplete`, `UserFirst`,
`Script.UserComplete`, `Script.TextSlots`, `Script.UserFirst`.
Key theorems: `userFirst_flow`, `Script.entry_stage`, `Script.sidesFirst`,
`userFirst`.
-/
import AplaneSdk.EndToEnd
import AplaneSdk.Scripts

namespace AplaneSdk

open Checks Interaction Interaction.Prog

/-- A response of `client` with a component for position `i` was accepted. -/
def Accepted (calls : Calls) (t : Trace signer) (client : Client) (P : ComponentTarget → Prop) (i : ℤ) : Prop :=
  ∃ req reply resp, (⟨.components client req, reply⟩ : Exchange) ∈ t ∧
    calls.acceptComponents req reply = .ok resp ∧
    (∃ x ∈ req.targets, x.targetIndex = i ∧ P x) ∧ ∃ c ∈ resp.components, c.targetIndex = i

/-- The user side of a group is complete. -/
structure UserComplete (calls : Calls) (group : Group) (t : Trace signer) : Prop where
  components : ∀ target ∈ group.targets,
    Accepted calls t group.user (fun x => x.kind = group.kind) target.targetIndex
  primary : group.primaries ≠ [] → ∃ req reply resp, (⟨.sign group.user req, reply⟩ : Exchange) ∈ t ∧
    calls.acceptSign req reply = .ok resp ∧ ∀ i ∈ group.primaries, resp.signed.getD i.toNat "" ≠ ""

/-- Every target has the component of the cosigner it resolves to. -/
def CosignersComplete (d : Dialect) (cosigner : CosignerOptions) (group : Group) (t : Trace signer) : Prop :=
  ∀ target ∈ group.targets, ∃ client key,
    resolveGuardedCosigner d cosigner target = .ok (some client, key) ∧
    Accepted d.calls t client (fun x => x.kind = .cosigner ∧ x.componentKey = key) target.targetIndex

section Complete

variable {calls : Calls} {kind : ComponentTargetKind}
  {belongs : GuardedSignTarget → Asking → ComponentTarget → Prop} {targets : List GuardedSignTarget}
  {t t' : Trace signer} {responses : List ComponentResponse} {asks : List Asking}

theorem Accepted.mono {client : Client} {P : ComponentTarget → Prop} {i : ℤ}
    (h : Accepted calls t client P i) (ht : t ⊆ t') : Accepted calls t' client P i :=
  let ⟨req, reply, resp, hsent, hrest⟩ := h
  ⟨req, reply, resp, ht hsent, hrest⟩

theorem UserComplete.mono {group : Group} (h : UserComplete calls group t) (ht : t ⊆ t') :
    UserComplete calls group t' where
  components target hm := (h.components target hm).mono ht
  primary hne :=
    let ⟨req, reply, resp, hsent, hrest⟩ := h.primary hne
    ⟨req, reply, resp, ht hsent, hrest⟩

/-- The component of a target of a side was accepted. -/
theorem Side.accepted (h : Side calls kind belongs targets t responses asks) {target : GuardedSignTarget}
    (hm : target ∈ targets) : ∃ a ∈ asks, ∃ x ∈ a.req.targets, belongs target a x ∧
      Accepted calls t a.client (fun y => y.kind = kind ∧ y = x) target.targetIndex := by
  obtain ⟨requests, hround, -⟩ := h.round
  obtain ⟨a, ha, x, hx, hi, hbelongs⟩ := h.named target hm
  have hasked := hround.asked a ha
  obtain ⟨c, hc, hci⟩ := hasked.components.answered x hx
  exact ⟨a, ha, x, hx, hbelongs, _, a.reply, a.resp, hround.mem_trace ha, hasked.accepted,
    ⟨x, hx, hi, h.kinds a ha x hx, rfl⟩, c, hc, hci.trans hi⟩

theorem Accepted.imp {client : Client} {P Q : ComponentTarget → Prop} {i : ℤ}
    (h : Accepted calls t client P i) (hpq : ∀ x, P x → Q x) : Accepted calls t client Q i :=
  let ⟨req, reply, resp, hsent, hacc, ⟨x, hx, hi, hp⟩, hc⟩ := h
  ⟨req, reply, resp, hsent, hacc, ⟨x, hx, hi, hpq x hp⟩, hc⟩

/-- The two sides of a stage make the user side complete. -/
theorem userComplete {group : Group} {items : List AssemblyPassthroughItem}
    (h : Side calls group.kind belongs group.targets t responses asks)
    (hclient : ∀ target a x, belongs target a x → a.client = group.user)
    (hp : PrimarySide calls group.user group.primaries t items) : UserComplete calls group t where
  components target hm := by
    obtain ⟨a, -, x, -, hbelongs, hacc⟩ := h.accepted hm
    rw [← hclient target a x hbelongs]
    exact hacc.imp fun _ hy => hy.1
  primary hne := by
    obtain ⟨req, reply, resp, hsent, hacc, -, hall, -⟩ := hp.asked hne
    exact ⟨req, reply, resp, hsent, hacc, hall⟩

theorem cosignersComplete {d : Dialect} {cosigner : CosignerOptions} {group : Group}
    (h : Side d.calls .cosigner (OfCosigner d cosigner) group.targets t responses asks) :
    CosignersComplete d cosigner group t := by
  intro target hm
  obtain ⟨a, -, x, -, hresolved, hacc⟩ := h.accepted hm
  exact ⟨a.client, x.componentKey, hresolved, hacc.imp fun y ⟨hk, hy⟩ => ⟨hk, by rw [hy]⟩⟩

end Complete

/-- In every run of the entry, a request that shows the group to a cosigner
is sent only when the user side is complete, and an assembly request only
when the cosigners' components are there too. -/
def UserFirst (d : Dialect) (entry : Entry) : Prop :=
  AtEach (entry.flow d) fun pre e =>
    (exchangeKind e = .cosignerComponents →
      ∃ group, entry.Signs pre group ∧ UserComplete d.calls group pre) ∧
    (exchangeKind e = .assemble →
      ∃ group, entry.Signs pre group ∧ UserComplete d.calls group pre ∧
        CosignersComplete d entry.cosigner group pre)

theorem userFirst_flow {d : Dialect} (hl : d.Lawful) (entry : Entry) : UserFirst d entry := by
  intro pre e post r h
  constructor
  · intro hkind
    obtain ⟨group, u, c, responses, asks, items, pre', r', hsigns, rfl, hstage, -⟩ :=
      entry_stage hl entry h (Or.inl hkind)
    have huser := userComplete hstage.side (fun _ _ _ hb => hb.1) hstage.primary
    exact ⟨group, hsigns.mono (List.subset_append_left ..), huser.mono (List.subset_append_left ..)⟩
  · intro hkind
    obtain ⟨group, u, c, responses, asks, items, pre', r', hsigns, rfl, hstage, hrun⟩ :=
      entry_stage hl entry h (Or.inr hkind)
    have huser := userComplete hstage.side (fun _ _ _ hb => hb.1) hstage.primary
    obtain ⟨cosigned, t₁, ids, _, _, _, rfl, hcosigners, -⟩ := closing_stage hl hrun hkind
    rw [hstage.targets, hstage.cosigner_eq] at hcosigners
    obtain ⟨_, hside⟩ := cosignerSide hl hstage.nodup hcosigners
    refine ⟨group, hsigns.mono (List.subset_append_left ..), huser.mono (List.subset_append_left ..), ?_⟩
    intro target hm
    obtain ⟨client, key, hres, hacc⟩ := cosignersComplete hside target hm
    refine ⟨client, key, hres, hacc.mono ?_⟩
    exact List.Subset.trans (List.subset_append_left ..) (List.subset_append_right ..)

/-! ### Over JSON answers -/

/-- A response of `client` with a component for position `i` was accepted. -/
def Script.Accepted (s : Script) (t : Trace rawSigner) (client : Client) (P : ComponentTarget → Prop)
    (i : ℤ) : Prop :=
  ∃ req reply resp, (⟨.inr (.components client req), reply⟩ : RawExchange) ∈ t ∧
    s.acceptComponents req reply = .ok resp ∧
    (∃ x ∈ req.targets, x.targetIndex = i ∧ P x) ∧ ∃ c ∈ resp.components, c.targetIndex = i

/-- The user side of a group is complete: at every primary position the
accepted answer has a signed transaction. -/
structure Script.UserComplete (s : Script) (group : Group) (t : Trace rawSigner) : Prop where
  components : ∀ target ∈ group.targets,
    s.Accepted t group.user (fun x => x.kind = group.kind) target.targetIndex
  primary : group.primaries ≠ [] → ∃ req reply body,
    (⟨.inr (.sign group.user req), reply⟩ : RawExchange) ∈ t ∧ s.acceptSign req reply = .ok body ∧
    ∀ i ∈ group.primaries, ∃ text, s.slot body i.toNat = some (.str text) ∧ text ≠ ""

def Script.CosignersComplete (s : Script) (cosigner : CosignerOptions) (group : Group)
    (t : Trace rawSigner) : Prop :=
  ∀ target ∈ group.targets, ∃ client key,
    resolveGuardedCosigner s.dialect cosigner target = .ok (some client, key) ∧
    s.Accepted t client (fun x => x.kind = .cosigner ∧ x.componentKey = key) target.targetIndex

/-- What the primary signer answers at a primary position is a text, or counts
as false. -/
def Script.TextSlots (s : Script) (group : Group) (t : Trace rawSigner) : Prop :=
  ∀ req reply body, (⟨.inr (.sign group.user req), reply⟩ : RawExchange) ∈ t → reply.okBody = some body →
    ∀ i ∈ group.primaries, ∀ v, s.slot body i.toNat = some v → v.truthy s.emptyIsTrue = true →
      ∃ text, v = .str text

/-- The user side as far as a choreography has tested it. It compares what the
primary signer answers with the group, except where it verifies nothing. -/
structure Script.UserSide (s : Script) (group : Group) (t : Trace rawSigner) : Prop where
  components : ∀ target ∈ group.targets,
    s.Accepted t group.user (fun x => x.kind = group.kind) target.targetIndex
  primary : group.primaries ≠ [] → ∃ req reply body,
    (⟨.inr (.sign group.user req), reply⟩ : RawExchange) ∈ t ∧ s.acceptSign req reply = .ok body ∧
    ∀ i ∈ group.primaries, ∃ v, s.slot body i.toNat = some v ∧ v.truthy s.emptyIsTrue = true ∧
      ((group.kind = .user → s.dialect.verifiesPrimary = true) → ∃ text, v = .str text)

/-- The primary positions are among the prepared ones, and none is a target's. -/
def Entry.Apart : Entry → Group → Prop
  | guarded _, _ => True
  | bounded opts, group | prepared opts, group => ∀ i ∈ group.primaries,
      (∃ n < opts.transactions.length, i = n) ∧ ∀ target ∈ group.targets, target.targetIndex ≠ i

section Sides

variable {s : Script} {t t' u pre post : Trace rawSigner} {group : Group} {user client : Client}
  {frame : ComponentFrame} {targets : List GuardedSignTarget}

theorem Script.Accepted.mono {P : ComponentTarget → Prop} {i : ℤ} (h : s.Accepted t client P i)
    (ht : t ⊆ t') : s.Accepted t' client P i :=
  let ⟨req, reply, resp, hsent, hrest⟩ := h
  ⟨req, reply, resp, ht hsent, hrest⟩

theorem Script.Accepted.imp {P Q : ComponentTarget → Prop} {i : ℤ} (h : s.Accepted t client P i)
    (hpq : ∀ x, P x → Q x) : s.Accepted t client Q i :=
  let ⟨req, reply, resp, hsent, hacc, ⟨x, hx, hi, hp⟩, hc⟩ := h
  ⟨req, reply, resp, hsent, hacc, ⟨x, hx, hi, hpq x hp⟩, hc⟩

theorem Script.UserSide.mono (h : s.UserSide group t) (ht : t ⊆ t') : s.UserSide group t' where
  components target hm := (h.components target hm).mono ht
  primary hne :=
    let ⟨req, reply, body, hsent, hrest⟩ := h.primary hne
    ⟨req, reply, body, ht hsent, hrest⟩

/-- A user side whose primary answers are texts is complete. -/
theorem Script.UserSide.complete (hs : s.Lawful) (h : s.UserSide group t)
    (htexts : (group.kind = .user → s.dialect.verifiesPrimary = true) ∨ s.TextSlots group t) :
    s.UserComplete group t where
  components := h.components
  primary hne := by
    obtain ⟨req, reply, body, hsent, hacc, hall⟩ := h.primary hne
    refine ⟨req, reply, body, hsent, hacc, fun i hi => ?_⟩
    obtain ⟨v, hv, htrue, hverified⟩ := hall i hi
    obtain ⟨text, rfl⟩ : ∃ text, v = .str text := by
      rcases htexts with hverifies | hslots
      · exact hverified hverifies
      · exact hslots req reply body hsent (hs.sign hacc) i hi v hv htrue
    exact ⟨text, hv, by simpa [Json.truthy] using htrue⟩

/-- A component request that succeeded has an accepted component for each of
its targets. -/
theorem Script.requestComponents_accepted (hs : s.Lawful) {req : ComponentRequest}
    {resp : RawComponentResponse} (h : Runs (s.requestComponents client req) t (.ok resp))
    {x : ComponentTarget} (hx : x ∈ req.targets) : s.Accepted t client (· = x) x.targetIndex := by
  obtain ⟨id, reply, hvalid, hsent, hacc⟩ := runs_signingExchange_ok h
  obtain ⟨_, hok⟩ := hs.dialect.calls.componentRequest (mapErr_ok.mp hvalid)
  obtain ⟨-, -, hkinds⟩ := Script.acceptComponents_ok hs hok.targets_nodup hacc
  have hmem : (x.targetIndex, x.kind) ∈ resp.kinds :=
    hkinds.mem_iff.mpr (ComponentRequest.mem_kinds.mpr ⟨x, hx, rfl, rfl⟩)
  obtain ⟨c, hc, he⟩ := List.mem_map.mp hmem
  exact ⟨_, reply, resp, hsent, hacc, ⟨x, hx, rfl, rfl⟩, c, hc, (Prod.mk.inj he).1⟩

/-- The same for a request made of indices. -/
theorem Script.requestIndices_accepted (hs : s.Lawful) {kind : ComponentTargetKind} {key : String}
    {indices : List ℤ} {resp : RawComponentResponse}
    (h : Runs (s.requestComponents client (componentRequestForIndices s.dialect frame kind key indices)) t
      (.ok resp)) {i : ℤ} (hi : i ∈ indices) :
    s.Accepted t client (fun x => x.kind = kind ∧ (kind ≠ .user → x.componentKey = key)) i := by
  obtain ⟨x, hx, rfl, -, hkey⟩ := mem_componentRequestForIndices s.dialect frame kind key hi
  refine (Script.requestComponents_accepted hs h hx).imp ?_
  rintro _ rfl
  exact ⟨kind_componentRequestForIndices hx, hkey⟩

theorem Script.userPhase_accepted (hs : s.Lawful) {responses : List RawComponentResponse}
    (h : Runs (s.requestUserComponentSignatures user frame targets) t (.ok responses))
    {target : GuardedSignTarget} (hm : target ∈ targets) :
    s.Accepted t user (fun x => x.kind = .user) target.targetIndex := by
  obtain ⟨indices, hi, hreq⟩ := mem_userRequests s.dialect user frame hm
  obtain ⟨p, hp, he⟩ := List.mem_map.mp hreq
  obtain ⟨resp, t', ht', hrun⟩ := runs_collect_each h hp
  rw [(Prod.mk.inj he).2] at hrun
  exact ((Script.requestIndices_accepted hs hrun hi).imp fun _ hx => hx.1).mono ht'

theorem Script.cosignerPhase_accepted (hs : s.Lawful) {cosigner : CosignerOptions}
    {responses : List RawComponentResponse}
    (h : Runs (s.requestCosignerComponentSignatures cosigner frame targets) t (.ok responses))
    {target : GuardedSignTarget} (hm : target ∈ targets) : ∃ client key,
      resolveGuardedCosigner s.dialect cosigner target = .ok (some client, key) ∧
      s.Accepted t client (fun x => x.kind = .cosigner ∧ x.componentKey = key) target.targetIndex := by
  obtain ⟨resolved, hres, h⟩ := runs_lift_bind_ok.mp h
  obtain ⟨groups, t₁, t₂, rfl, horder, hcollect⟩ := runs_bind_ok.mp h
  obtain ⟨_, -, horder⟩ := runs_via.mp horder
  obtain ⟨client, key, indices, hr, hi, hreq⟩ :=
    mem_cosignerRequests frame hres (hs.dialect.order horder) hm
  obtain ⟨g, hg, he⟩ := List.mem_map.mp hreq
  obtain ⟨hclient, hreq⟩ := Prod.mk.inj he
  obtain ⟨resp, t', ht', hrun⟩ := runs_collect_each hcollect hg
  unfold Script.requestCosignerGroup at hrun
  split at hrun
  · cases hrun.2
  · rename_i client' hsome
    rw [hreq] at hrun
    refine ⟨client', key, by rw [hr, ← hclient, hsome], ?_⟩
    refine ((Script.requestIndices_accepted hs hrun hi).imp fun _ hx => ⟨hx.1, hx.2 (by decide)⟩).mono ?_
    exact List.Subset.trans ht' (List.subset_append_right ..)

/-- What is forwarded of a primary position counts as true, and where it is
compared it is a text. -/
theorem Script.forwardAll_ok (htexts : s.ReadsTexts) {verifies : Bool} {group : List String} {body : Json}
    {primaries : List GuardedPrimarySignTarget} {items : List RawPassthroughItem}
    (h : s.forwardAll verifies group body primaries = .ok items) :
    ∀ i ∈ primaries.map (·.targetIndex), ∃ v, s.slot body i.toNat = some v ∧
      v.truthy s.emptyIsTrue = true ∧ (verifies = true → ∃ text, v = .str text) := by
  intro i hi
  obtain ⟨item, -, hitem⟩ := exists_of_forall₂ (mapEach_forall₂.mp h) i
    ((sortIndices_perm _).mem_iff.mpr hi)
  obtain ⟨hon, hitem⟩ := seq_eq_ok.mp hitem
  obtain ⟨hmatch, -⟩ := seq_eq_ok.mp hitem
  rw [failIf_ok] at hon
  cases hslot : s.slot body i.toNat with
  | none =>
    rw [hslot] at hon
    exact absurd rfl hon
  | some v =>
    rw [hslot, isOff] at hon
    rw [hslot, checkWhen_ok] at hmatch
    exact ⟨v, rfl, by simpa using hon, fun hv => htexts (hmatch hv)⟩

theorem Script.guardedPrimary_ok (htexts : s.ReadsTexts) {opts : GuardedSignOptions}
    {out : Option Json × List RawPassthroughItem}
    (h : Runs (s.guardedPrimary opts user targets) t (.ok out))
    (hne : opts.primaryTargets.map (·.targetIndex) ≠ []) : ∃ req reply body,
      (⟨.inr (.sign user req), reply⟩ : RawExchange) ∈ t ∧ s.acceptSign req reply = .ok body ∧
      ∀ i ∈ opts.primaryTargets.map (·.targetIndex), ∃ v, s.slot body i.toNat = some v ∧
        v.truthy s.emptyIsTrue = true ∧ (s.dialect.verifiesPrimary = true → ∃ text, v = .str text) := by
  obtain ⟨passthrough, -, h⟩ := runs_lift_bind_ok.mp h
  split at h
  · rename_i hnone
    exact absurd (by rw [hnone]; rfl) hne
  · obtain ⟨_, t₁, t₂, rfl, hreq, -⟩ := runs_bind_ok.mp h
    obtain ⟨requests, -, hrun⟩ := runs_lift_bind_ok.mp hreq
    obtain ⟨body, t₃, t₄, rfl, hsign, hrest⟩ := runs_bind_ok.mp hrun
    obtain ⟨items, hitems, -⟩ := runs_lift_bind_ok.mp hrest
    obtain ⟨id, reply, -, hsent, hacc⟩ := runs_signingExchange_ok hsign
    exact ⟨_, reply, body, by simp [hsent], hacc, Script.forwardAll_ok htexts hitems⟩

theorem Script.boundedPrimary_ok (htexts : s.ReadsTexts) {txns : List String} {slots : List Slot}
    {out : Option Json × List RawPassthroughItem}
    (h : Runs (s.requestBoundedPrimaryPassthrough user txns slots) t (.ok out))
    (hne : (slots.filterMap Slot.primary?).map (·.targetIndex) ≠ []) : ∃ req reply body,
      (⟨.inr (.sign user req), reply⟩ : RawExchange) ∈ t ∧ s.acceptSign req reply = .ok body ∧
      ∀ i ∈ (slots.filterMap Slot.primary?).map (·.targetIndex), ∃ v, s.slot body i.toNat = some v ∧
        v.truthy s.emptyIsTrue = true ∧ ∃ text, v = .str text := by
  unfold Script.requestBoundedPrimaryPassthrough at h
  dsimp only at h
  split at h
  · rename_i hnone
    exact absurd (by rw [hnone]; rfl) hne
  · obtain ⟨body, t₁, t₂, rfl, hsign, hrest⟩ := runs_bind_ok.mp h
    obtain ⟨items, hitems, -⟩ := runs_lift_bind_ok.mp hrest
    obtain ⟨id, reply, -, hsent, hacc⟩ := runs_signingExchange_ok hsign
    refine ⟨_, reply, body, by simp [hsent], hacc, fun i hi => ?_⟩
    obtain ⟨v, hv, htrue, htext⟩ := Script.forwardAll_ok htexts hitems i hi
    exact ⟨v, hv, htrue, htext rfl⟩

end Sides

/-! ### What the phases leave behind -/

section RawKinds

variable {s : Script} {user client : Client} {frame : ComponentFrame} {targets : List GuardedSignTarget}

theorem onlyRawKinds_requestComponents {req : ComponentRequest} (hreq : ∀ x ∈ req.targets, x.kind ≠ .cosigner) :
    OnlyRawKinds [.id, .userComponents] (s.requestComponents client req) := by
  refine emits_signingExchange (onlyRawKinds_quietly (emits_fillRequestId fun _ => ?_)) fun id reply => ?_
  · simp [exchangeKind]
  · have hany : req.targets.any (·.kind = .cosigner) = false := by
      simpa using hreq
    simp [rawKind, hany]

theorem onlyRawKinds_signGroup {requests : List SignRequest} :
    OnlyRawKinds [.id, .sign] (s.signGroup user requests) :=
  emits_signingExchange (onlyRawKinds_quietly (emits_newRequestId fun _ => by simp [exchangeKind]))
    fun _ _ => by simp [rawKind]

theorem onlyRawKinds_userPhase :
    OnlyRawKinds [.id, .userComponents] (s.requestUserComponentSignatures user frame targets) := by
  refine emits_collect _ fun p _ => onlyRawKinds_requestComponents fun x hx => ?_
  rw [kind_componentRequestForIndices hx]
  decide

theorem onlyRawKinds_base {group : List String} {slots : List Slot} :
    OnlyRawKinds [.id, .userComponents] (s.requestComponents user (baseComponentRequest group slots)) := by
  refine onlyRawKinds_requestComponents fun x hx => ?_
  obtain ⟨p, -, hp⟩ := List.mem_filterMap.mp hx
  obtain ⟨_, -, rfl⟩ := Option.map_eq_some_iff.mp hp
  simp

theorem onlyRawKinds_guardedPrimary {opts : GuardedSignOptions} :
    OnlyRawKinds [.id, .sign] (s.guardedPrimary opts user targets) := by
  refine emits_bind (emits_lift _) fun passthrough => ?_
  split
  · exact emits_pure _
  · refine emits_bind ?_ fun _ => emits_pure _
    exact emits_bind (emits_lift _) fun _ => emits_bind onlyRawKinds_signGroup fun _ =>
      emits_bind (emits_lift _) fun _ => emits_pure _

theorem onlyRawKinds_boundedPrimary {group : List String} {slots : List Slot} :
    OnlyRawKinds [.id, .sign] (s.requestBoundedPrimaryPassthrough user group slots) := by
  unfold Script.requestBoundedPrimaryPassthrough
  dsimp only
  split
  · exact emits_pure _
  · exact emits_bind onlyRawKinds_signGroup fun _ => emits_bind (emits_lift _) fun _ => emits_pure _

/-- A cosigner phase comes before the assembly. -/
theorem onlyRawKinds_cosignerPhase (hs : s.Lawful) {cosigner : CosignerOptions} :
    OnlyRawKinds [.id, .order, .userComponents, .cosignerComponents]
      (s.requestCosignerComponentSignatures cosigner frame targets) := by
  refine emits_bind (emits_lift _) fun _ => emits_bind (onlyRawKinds_quietly
    (hs.dialect.emits_order fun _ => by simp [exchangeKind])) fun groups => emits_collect _ fun g _ => ?_
  unfold Script.requestCosignerGroup
  split
  · exact emits_done _
  · refine emits_signingExchange (onlyRawKinds_quietly (emits_fillRequestId fun _ => ?_)) fun id reply => ?_
    · simp [exchangeKind]
    · simp only [rawKind]
      split <;> simp

end RawKinds

/-! ### The closing of an entry -/

/-- A run of an entry at its closing: the user side of the group is in `u`. -/
structure Script.Stage (s : Script) (cosigner : CosignerOptions) (group : Group) (u : Trace rawSigner)
    (c : RawClosing) : Prop where
  side : s.UserSide group u
  cosigner_eq : c.cosigner = cosigner
  targets : c.targets = group.targets

section RawStages

variable {s : Script} {pre post : Trace rawSigner} {e : RawExchange} {r : Except SdkError RawSignResult}
  {opts : PreparedGuardedGroupOptions}

theorem Script.guarded_entry (hs : s.Lawful) (htexts : s.ReadsTexts) {opts : GuardedSignOptions}
    (h : Runs (s.signGuardedGroup opts) (pre ++ e :: post) r) (he : RawCloses e) :
    ∃ group u c pre' r', (Entry.guarded opts).Signs (aside u) group ∧ pre = u ++ pre' ∧
      s.Stage opts.cosigner group u c ∧ Runs (s.cosignAndAssemble c) (pre' ++ e :: post) r' := by
  rcases runs_lift_bind.mp h with ⟨_, -, hnil, -⟩ | ⟨⟨user, targets⟩, hpre, h⟩
  · simp at hnil
  obtain ⟨responses, t₁, pre₁, rfl, huser, h⟩ :=
    runs_bind_split (onlyRawKinds_userPhase.not_closes (by decide) (by decide)) he h
  obtain ⟨⟨response, passthrough⟩, t₂, pre₂, rfl, hprimary, h⟩ :=
    runs_bind_split (onlyRawKinds_guardedPrimary.not_closes (by decide) (by decide)) he h
  obtain ⟨r', hclosing⟩ := runs_bind_quiet (fun _ => emits_pure _) h
  obtain ⟨hclient, hsorted, -⟩ := guardedPrelude_ok hpre
  refine ⟨⟨user, .user, targets, opts.primaryTargets.map (·.targetIndex)⟩, t₁ ++ t₂, _, pre₂, r',
    ⟨hclient, rfl, hsorted ▸ List.perm_insertionSort _ _, rfl⟩, (List.append_assoc ..).symm,
    ⟨⟨fun target hm => ?_, fun hne => ?_⟩, rfl, rfl⟩, hclosing⟩
  · exact (Script.userPhase_accepted hs huser hm).mono (List.subset_append_left ..)
  · obtain ⟨req, reply, body, hsent, hacc, hall⟩ := Script.guardedPrimary_ok htexts hprimary hne
    refine ⟨req, reply, body, List.mem_append_right _ hsent, hacc, fun i hi => ?_⟩
    obtain ⟨v, hv, htrue, htext⟩ := hall i hi
    exact ⟨v, hv, htrue, fun hverifies => htext (hverifies rfl)⟩

theorem SlotsOf.primaries_apart {copy : Txn → Except SdkError Txn} {sort : SortSlot} {flow : String}
    {user : Client} {t : Trace signer} {items : List PreparedTransaction} {keys : List KeyInfo}
    {slots : List Slot} (h : SlotsOf copy sort user t items keys slots) (hsorts : Sorts flow sort) {i : ℤ}
    (hi : i ∈ (slots.filterMap Slot.primary?).map (·.targetIndex)) :
    (∃ n < items.length, i = n) ∧ ∀ target ∈ slots.filterMap Slot.target?, target.targetIndex ≠ i := by
  obtain ⟨p, hp, rfl⟩ := List.mem_map.mp hi
  obtain ⟨slot, hslot, hprimary⟩ := List.mem_filterMap.mp hp
  obtain ⟨j, hj⟩ := List.mem_iff_getElem?.mp hslot
  have hindex := h.primary_index hsorts hj hprimary
  obtain ⟨hlt, -⟩ := List.getElem?_eq_some_iff.mp hj
  refine ⟨⟨j, h.slots_length ▸ hlt, hindex⟩, fun target hm he => ?_⟩
  have htarget := h.target_at hsorts hj hm (he.trans hindex)
  unfold Slot.target? at htarget
  unfold Slot.primary? at hprimary
  split at htarget <;> simp_all

theorem Script.bounded_entry (hs : s.Lawful) (htexts : s.ReadsTexts)
    (h : Runs (s.signPreparedBoundedCosignerGroup opts) (pre ++ e :: post) r) (he : RawCloses e) :
    ∃ group u c pre' r', (Entry.bounded opts).Signs (aside u) group ∧ (Entry.bounded opts).Apart group ∧
      pre = u ++ pre' ∧ s.Stage opts.cosigner group u c ∧
      Runs (s.cosignAndAssemble c) (pre' ++ e :: post) r' := by
  obtain ⟨⟨user, slots, txns, planned⟩, u₀, pre₀, rfl, hvia, h⟩ := runs_bind_split
    ((onlyRawKinds_quietly onlyKinds_planBounded).not_closes (by decide) (by decide)) he h
  obtain ⟨base, t₁, pre₁, rfl, hbase, h⟩ :=
    runs_bind_split (onlyRawKinds_base.not_closes (by decide) (by decide)) he h
  rcases runs_lift_bind.mp h with ⟨_, -, hnil, -⟩ | ⟨_, -, h⟩
  · simp at hnil
  obtain ⟨⟨response, items⟩, t₂, pre₂, rfl, hprimary, h⟩ :=
    runs_bind_split (onlyRawKinds_boundedPrimary.not_closes (by decide) (by decide)) he h
  obtain ⟨r', hclosing⟩ := runs_bind_quiet (fun _ => emits_pure _) h
  obtain ⟨t₀, rfl, hplan⟩ := runs_via.mp hvia
  obtain ⟨keys, plan, rfl, hplanned⟩ := planBounded_ok hs.dialect hplan
  have hsorts := sorts_sortBounded s.dialect.rules
  have hsigns := (hplanned.sorted.signs .boundedBase hplanned.client hsorts (List.Perm.refl _)).mono
    (List.subset_append_left t₀ (aside (t₁ ++ t₂)))
  refine ⟨⟨user, .boundedBase, slots.filterMap Slot.target?, (slots.filterMap Slot.primary?).map (·.targetIndex)⟩,
    t₀.map (Event.via Embedding.inl) ++ (t₁ ++ t₂), _, pre₂, r', ?_,
    fun i hi => hplanned.sorted.primaries_apart hsorts hi, ?_,
    ⟨⟨fun target hm => ?_, fun hne => ?_⟩, rfl, rfl⟩, hclosing⟩
  · rw [aside_append, aside_via]
    exact hsigns
  · simp only [List.append_assoc]
  · obtain ⟨slot, hslot, htarget⟩ := List.mem_filterMap.mp hm
    obtain ⟨i, hi⟩ := List.mem_iff_getElem?.mp hslot
    obtain ⟨x, hx, hxi⟩ := mem_baseComponentRequest plan.transactions hi htarget
    rw [hplanned.sorted.target_index hsorts hi htarget, ← hxi]
    refine ((Script.requestComponents_accepted hs hbase hx).imp ?_).mono ?_
    · rintro _ rfl
      obtain ⟨p, -, hp⟩ := List.mem_filterMap.mp hx
      obtain ⟨_, -, rfl⟩ := Option.map_eq_some_iff.mp hp
      rfl
    · exact List.Subset.trans (List.subset_append_left ..) (List.subset_append_right ..)
  · obtain ⟨req, reply, body, hsent, hacc, hall⟩ := Script.boundedPrimary_ok htexts hprimary hne
    refine ⟨req, reply, body, by simp [hsent], hacc, fun i hi => ?_⟩
    obtain ⟨v, hv, htrue, htext⟩ := hall i hi
    exact ⟨v, hv, htrue, fun _ => htext⟩

theorem Script.Stage.prepend {cosigner : CosignerOptions} {group : Group} {u : Trace rawSigner}
    {c : RawClosing} (h : s.Stage cosigner group u c) (t : Trace rawSigner) :
    s.Stage cosigner group (t ++ u) c where
  side := h.side.mono (List.subset_append_right ..)
  cosigner_eq := h.cosigner_eq
  targets := h.targets

theorem Script.prepared_entry (hs : s.Lawful) (htexts : s.ReadsTexts)
    (h : Runs (s.signPreparedGuardedGroup opts) (pre ++ e :: post) r) (he : RawCloses e) :
    ∃ group u c pre' r', (Entry.prepared opts).Signs (aside u) group ∧ (Entry.prepared opts).Apart group ∧
      pre = u ++ pre' ∧ s.Stage opts.cosigner group u c ∧
      Runs (s.cosignAndAssemble c) (pre' ++ e :: post) r' := by
  obtain ⟨found, u₀, pre₀, rfl, hvia, hrest⟩ := runs_bind_split
    ((onlyRawKinds_quietly onlyKinds_flowKeys).not_closes (by decide) (by decide)) he h
  obtain ⟨t₀, rfl, hfound⟩ := runs_via.mp hvia
  split at hrest
  · split at hrest
    · obtain ⟨hnil, -⟩ := hrest
      simp at hnil
    · obtain ⟨group, u, c, pre', r', hsigns, hapart, rfl, hstage, hrun⟩ :=
        Script.bounded_entry hs htexts hrest he
      rw [withKeys_cosigner] at hstage
      refine ⟨group, _ ++ u, c, pre', r', Or.inl ?_, ?_, (List.append_assoc ..).symm, hstage.prepend _, hrun⟩
      · rw [aside_append, aside_via]
        exact hsigns.of_withKeys hfound
      · intro i hi
        rw [← withKeys_length hfound]
        exact hapart i hi
  · obtain ⟨signOpts, u₁, pre₁, rfl, hvia', hguarded⟩ := runs_bind_split
      ((onlyRawKinds_quietly onlyKinds_buildGuarded).not_closes (by decide) (by decide)) he hrest
    obtain ⟨t₁, rfl, hbuild⟩ := runs_via.mp hvia'
    obtain ⟨user, keys, slots, plan, planned, hplan, hclient, hcosigner, -, htargets, hprimaries⟩ :=
      buildGuarded_ok hs.dialect hbuild
    obtain ⟨group, u, c, pre', r', ⟨huser, hkind, hperm, hprim⟩, rfl, hstage, hrun⟩ :=
      Script.guarded_entry hs htexts hguarded he
    have hgroup : group = ⟨user, .user, group.targets,
        (slots.filterMap Slot.primary?).map (·.targetIndex)⟩ := by
      rw [hclient] at huser
      rw [hprimaries] at hprim
      cases group
      simp only at hkind hprim huser
      rw [hkind, hprim, Option.some.inj huser]
    have hsorts := sorts_sortGuarded s.dialect.rules
    have hsigns := hplan.sorted.signs .user hplan.client hsorts (htargets ▸ hperm)
    rw [← hgroup] at hsigns
    rw [hcosigner, withKeys_cosigner] at hstage
    refine ⟨group, t₀.map (Event.via Embedding.inl) ++ (t₁.map (Event.via Embedding.inl) ++ u), c, pre', r',
      Or.inr ?_, fun i hi => ?_, ?_, (hstage.prepend _).prepend _, hrun⟩
    · rw [aside_append, aside_append, aside_via, aside_via, ← List.append_assoc]
      exact (hsigns.of_withKeys hfound).mono (List.subset_append_left ..)
    · rw [hprim, hprimaries] at hi
      obtain ⟨hn, hapart⟩ := hplan.sorted.primaries_apart hsorts hi
      rw [withKeys_length hfound] at hn
      refine ⟨hn, fun target hm => hapart target ?_⟩
      exact htargets ▸ hperm.mem_iff.mp hm
    · simp only [List.append_assoc]

/-- A run of an entry that reached its closing, with the user side behind it. -/
theorem Script.entry_stage (hs : s.Lawful) (htexts : s.ReadsTexts) (entry : Entry)
    (h : Runs (entry.script s) (pre ++ e :: post) r) (he : RawCloses e) :
    ∃ group u c pre' r', entry.Signs (aside u) group ∧ entry.Apart group ∧ pre = u ++ pre' ∧
      s.Stage entry.cosigner group u c ∧ Runs (s.cosignAndAssemble c) (pre' ++ e :: post) r' := by
  cases entry with
  | guarded opts =>
    obtain ⟨group, u, c, pre', r', hsigns, hrest⟩ := Script.guarded_entry hs htexts h he
    exact ⟨group, u, c, pre', r', hsigns, trivial, hrest⟩
  | bounded opts => exact Script.bounded_entry hs htexts h he
  | prepared opts => exact Script.prepared_entry hs htexts h he

/-- The assembly request of a closing is sent after its cosigner phase. -/
theorem Script.closing_stage (hs : s.Lawful) {c : RawClosing}
    {r : Except SdkError (List RawComponentResponse × Json)}
    (h : Runs (s.cosignAndAssemble c) (pre ++ e :: post) r) (he : rawKind e = .assemble) :
    ∃ responses t₁ pre', pre = t₁ ++ pre' ∧
      Runs (s.requestCosignerComponentSignatures c.cosigner c.frame c.targets) t₁ (.ok responses) := by
  have hnot : Emits (fun e => ¬ rawKind e = .assemble)
      (s.requestCosignerComponentSignatures c.cosigner c.frame c.targets) := by
    intro t r hr e he hkind
    have hmem : rawKind e ∈ [.id, .order, .userComponents, .cosignerComponents] :=
      onlyRawKinds_cosignerPhase hs t r hr e he
    rw [hkind] at hmem
    exact absurd hmem (by decide)
  obtain ⟨responses, t₁, pre', rfl, hcosigners, -⟩ := runs_bind_split hnot he h
  exact ⟨responses, t₁, pre', rfl, hcosigners⟩

end RawStages

/-- The user side of the group that is signed is behind each request that
shows it to a cosigner, and the components of the cosigners behind the
assembly. -/
theorem Script.sidesFirst {s : Script} (hs : s.Lawful) (htexts : s.ReadsTexts) (entry : Entry) :
    AtEach (entry.script s) fun pre e =>
      (rawKind e = .cosignerComponents →
        ∃ group, entry.Signs (aside pre) group ∧ entry.Apart group ∧ s.UserSide group pre) ∧
      (rawKind e = .assemble →
        ∃ group, entry.Signs (aside pre) group ∧ entry.Apart group ∧ s.UserSide group pre ∧
          s.CosignersComplete entry.cosigner group pre) := by
  intro pre e post r h
  constructor
  · intro hkind
    obtain ⟨group, u, c, pre', r', hsigns, hapart, rfl, hstage, -⟩ :=
      Script.entry_stage hs htexts entry h (Or.inl hkind)
    exact ⟨group, hsigns.mono (aside_mono (List.subset_append_left ..)), hapart,
      hstage.side.mono (List.subset_append_left ..)⟩
  · intro hkind
    obtain ⟨group, u, c, pre', r', hsigns, hapart, rfl, hstage, hrun⟩ :=
      Script.entry_stage hs htexts entry h (Or.inr hkind)
    obtain ⟨responses, t₁, pre', rfl, hcosigners⟩ := Script.closing_stage hs hrun hkind
    rw [hstage.targets, hstage.cosigner_eq] at hcosigners
    refine ⟨group, hsigns.mono (aside_mono (List.subset_append_left ..)), hapart,
      hstage.side.mono (List.subset_append_left ..), fun target hm => ?_⟩
    obtain ⟨client, key, hres, hacc⟩ := Script.cosignerPhase_accepted hs hcosigners hm
    refine ⟨client, key, hres, hacc.mono ?_⟩
    exact List.Subset.trans (List.subset_append_left ..) (List.subset_append_right ..)

/-- The same of an SDK that goes on with JSON; the user side is complete where
`given` holds of the group and of what came before. -/
def Script.UserFirst (s : Script) (entry : Entry) (given : Group → Trace rawSigner → Prop) : Prop :=
  AtEach (entry.script s) fun pre e =>
    (rawKind e = .cosignerComponents → ∃ group, entry.Signs (aside pre) group ∧ entry.Apart group ∧
      (given group pre → s.UserComplete group pre)) ∧
    (rawKind e = .assemble → ∃ group, entry.Signs (aside pre) group ∧ entry.Apart group ∧
      (given group pre → s.UserComplete group pre) ∧ s.CosignersComplete entry.cosigner group pre)

theorem Script.userFirst_of {s : Script} (hs : s.Lawful) (htexts : s.ReadsTexts) (entry : Entry)
    {given : Group → Trace rawSigner → Prop}
    (hgiven : ∀ group t, given group t →
      (group.kind = .user → s.dialect.verifiesPrimary = true) ∨ s.TextSlots group t) :
    s.UserFirst entry given := by
  intro pre e post r h
  obtain ⟨hcosigner, hassemble⟩ := Script.sidesFirst hs htexts entry pre e post r h
  constructor
  · intro hkind
    obtain ⟨group, hsigns, hapart, hside⟩ := hcosigner hkind
    exact ⟨group, hsigns, hapart, fun hg => hside.complete hs (hgiven group pre hg)⟩
  · intro hkind
    obtain ⟨group, hsigns, hapart, hside, hcosigned⟩ := hassemble hkind
    exact ⟨group, hsigns, hapart, fun hg => hside.complete hs (hgiven group pre hg), hcosigned⟩

/-- **The user signs first**, in every run of every entry: in Go and Python
whatever the servers answer, and in TypeScript where, in the guarded
choreography, the primary signer answers with texts. -/
theorem userFirst (env : Env) (conv : Coercions) (hempty : ∀ txn, env.decodeSigned [] ≠ .ok (some txn))
    (entry : Entry) :
    UserFirst (Go.dialect env) entry ∧ (Python.script env conv).UserFirst entry (fun _ _ => True) ∧
      (TypeScript.script env conv).UserFirst entry fun group t =>
        group.kind = .user → (TypeScript.script env conv).TextSlots group t := by
  refine ⟨userFirst_flow (Go.lawful_dialect env) entry, ?_, ?_⟩
  · exact Script.userFirst_of (Python.lawful_script env conv) (Python.readsTexts env conv) entry
      fun _ _ _ => Or.inl fun _ => rfl
  · refine Script.userFirst_of (TypeScript.lawful_script env conv) (TypeScript.readsTexts hempty conv)
      entry fun group t hg => ?_
    by_cases hkind : group.kind = .user
    · exact Or.inr (hg hkind)
    · exact Or.inl fun h => absurd h hkind

namespace Demo

/-- A guarded position and a primary one. -/
def mixedOptions : GuardedSignOptions where
  userClient := some ⟨0⟩
  cosigner := { client := some ⟨1⟩, componentKey := "cosigner-key" }
  groupBytesHex := [paymentHex, paymentHex]
  targets := [{ targetIndex := 0, guardedAccount := payer, logicSigResources := some usage }]
  primaryTargets := [{ targetIndex := 1, authAddress := payer }]

/-- Parties that serve `mixedOptions`; the primary signer answers with an empty
array for its transaction. -/
def hollowAnswers : (o : rawSigner.Op) → rawSigner.Ans o
  | .inl (.keyInfo ..) => .ok none
  | .inl (.newRequestId _) => some zeroRandom
  | .inl (.plan ..) => .unreachable ""
  | .inl (.components ..) => .unreachable ""
  | .inl (.sign ..) => .unreachable ""
  | .inl (.assemble ..) => .unreachable ""
  | .inl (.groupOrder groups) => ⟨groups, .refl _⟩
  | .inr (.components _ req) => .http 200 "OK" "" none (some (componentsBody req.requestId (.int 0)
    (if req.kinds.at 0 = some .user then "user" else "cosigner")))
  | .inr (.sign ..) => .http 200 "OK" "" none (some (.obj [("signed", .arr [.str "", .arr []])]))
  | .inr (.assemble ..) => .unreachable ""

end Demo

/-- At the demo's options. -/
theorem userFirst_mixed :
    (TypeScript.script Demo.env Demo.coercions).UserFirst (.guarded Demo.mixedOptions) fun group t =>
      group.kind = .user → (TypeScript.script Demo.env Demo.coercions).TextSlots group t := by
  refine (userFirst Demo.env Demo.coercions (fun txn h => ?_) (.guarded Demo.mixedOptions)).2.2
  cases h

/-- TypeScript takes an empty array for a signed transaction, and shows the
group to the cosigner. -/
theorem Demo.hollow_disclosed :
    ¬ (TypeScript.script Demo.env Demo.coercions).UserFirst (.guarded Demo.mixedOptions)
      fun _ _ => True := by
  intro h
  obtain ⟨pre, e, hkind, ⟨hcosigner, -⟩, hans⟩ := AtEach.of_any h Demo.hollowAnswers
    (k := (rawKind · = .cosignerComponents)) (by decide +kernel)
  obtain ⟨group, hsigns, -, hcomplete⟩ := hcosigner (by simpa using hkind)
  have hprimaries : group.primaries = [1] := hsigns.2.2.2
  obtain ⟨req, reply, body, hsent, hacc, hall⟩ := (hcomplete trivial).primary (by simp [hprimaries])
  have hreply : reply = Demo.hollowAnswers (.inr (.sign group.user req)) := by
    injection hans _ hsent
  have hbody := (TypeScript.lawful_script Demo.env Demo.coercions).sign hacc
  rw [hreply] at hbody
  cases hbody
  obtain ⟨text, htext, -⟩ := hall 1 (by simp [hprimaries])
  cases htext

end AplaneSdk
