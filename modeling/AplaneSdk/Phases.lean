/-
# What each phase of a choreography leaves behind

A phase that succeeded has exchanged what it had to: a round of component
requests has an accepted answer for every position it named, and no two of
its requests name the same position, so the merged signatures keep the
parties apart. Which kinds of exchange a phase can leave behind at all is
said by its `emits` lemma.

Key definitions: `Exchange.Kind`, `Exchange.kind`, `Asking`, `Round`.
Key theorems: `Round.signatureAt`, `Round.unique`, `userRound`,
`cosignerRound`, `signGroup_ok`, `forwardAll_ok`.
-/
import AplaneSdk.Dialects

namespace AplaneSdk

open Checks Grouping Interaction Interaction.Prog

/-! ### Kinds of exchange -/

inductive ExchangeKind
  | key
  | id
  | plan
  /-- A component request without a cosigner target. -/
  | userComponents
  | cosignerComponents
  | sign
  | assemble
  | order
  deriving DecidableEq

def exchangeKind (e : Exchange) : ExchangeKind :=
  match e.op with
  | .keyInfo .. => .key
  | .newRequestId _ => .id
  | .plan .. => .plan
  | .components _ req =>
    if req.targets.any (·.kind = .cosigner) then .cosignerComponents else .userComponents
  | .sign .. => .sign
  | .assemble .. => .assemble
  | .groupOrder _ => .order

/-- The program leaves only exchanges of these kinds behind. -/
abbrev OnlyKinds {α : Type} (kinds : List ExchangeKind) (p : Flow α) : Prop :=
  Emits (fun e => exchangeKind e ∈ kinds) p

theorem OnlyKinds.mono {α : Type} {kinds kinds' : List ExchangeKind} {p : Flow α}
    (h : OnlyKinds kinds p) (hsub : kinds ⊆ kinds') : OnlyKinds kinds' p :=
  fun t r hr e he => hsub (h t r hr e he)

section Kinds

variable {calls : Calls} {client : Client}

theorem onlyKinds_requestComponents {req : ComponentRequest} {kinds : List ExchangeKind}
    (hid : .id ∈ kinds) (hreq : ∀ reply, exchangeKind ⟨.components client req, reply⟩ ∈ kinds) :
    OnlyKinds kinds (requestComponents calls client req) :=
  emits_exchange (emits_fillRequestId fun _ => hid) fun _ => hreq

theorem onlyKinds_signGroup {requests : List SignRequest} :
    OnlyKinds [.id, .sign] (signGroup calls client requests) :=
  emits_exchange (emits_newRequestId fun _ => by simp [exchangeKind]) fun _ _ => by simp [exchangeKind]

theorem onlyKinds_planRequests {requests : List SignRequest} :
    OnlyKinds [.plan] (planRequests calls client requests) :=
  emits_exchange (emits_pure _) fun _ _ => by simp [exchangeKind]

theorem onlyKinds_lookupKey {wrap : SdkError → SdkError} {item : PreparedTransaction} :
    OnlyKinds [.key] (lookupKey client wrap item) := by
  unfold lookupKey
  split
  · exact emits_bind (emits_query fun _ => by simp [exchangeKind]) fun _ => emits_lift _
  · exact emits_pure _

end Kinds

section PhaseKinds

variable {d : Dialect} {user : Client} {frame : ComponentFrame} {targets : List GuardedSignTarget}

theorem onlyKinds_userPhase :
    OnlyKinds [.id, .userComponents] (requestUserComponentSignatures d user frame targets) := by
  refine emits_collect _ fun p _ => onlyKinds_requestComponents (by simp) fun _ => ?_
  simp [exchangeKind, componentRequestForIndices]

theorem onlyKinds_cosignerPhase (hl : d.Lawful) {cosigner : CosignerOptions} :
    OnlyKinds [.id, .order, .userComponents, .cosignerComponents]
      (requestCosignerComponentSignatures d cosigner frame targets) := by
  refine emits_bind (emits_lift _) fun _ => emits_bind
    (hl.emits_order fun _ => by simp [exchangeKind]) fun groups => emits_collect _ fun group _ => ?_
  unfold requestCosignerGroup
  split
  · exact emits_done _
  · refine onlyKinds_requestComponents (by simp) fun _ => ?_
    simp only [exchangeKind]
    split <;> simp

theorem onlyKinds_guardedPrimary {opts : GuardedSignOptions} :
    OnlyKinds [.id, .sign] (guardedPrimary d opts user targets) := by
  refine emits_bind (emits_lift _) fun passthrough => ?_
  split
  · exact emits_pure _
  · refine emits_bind ?_ fun _ => emits_pure _
    exact emits_bind (emits_lift _) fun _ => emits_bind onlyKinds_signGroup fun _ =>
      emits_bind (emits_lift _) fun _ => emits_pure _

end PhaseKinds

/-! ### Rounds of component requests -/

/-- One answered component request. -/
structure Asking where
  client : Client
  req : ComponentRequest
  trace : Trace signer
  resp : ComponentResponse
  id : String
  reply : Reply ComponentResponse

/-- The exchange of an answered request. -/
def Asking.event (a : Asking) : Exchange := ⟨.components a.client { a.req with requestId := a.id }, a.reply⟩

def ComponentRequest.indices (req : ComponentRequest) : List ℤ := req.targets.map (·.targetIndex)

/-- `asks` are the component exchanges in `t`: one for each request, in
order, with the responses accepted. -/
structure Round (calls : Calls) (requests : List (Option Client × ComponentRequest)) (t : Trace signer)
    (responses : List ComponentResponse) (asks : List Asking) : Prop where
  requests : asks.map (fun a => (some a.client, a.req)) = requests
  responses : asks.map (·.resp) = responses
  asked : ∀ a ∈ asks, Asked calls a.client a.req a.trace a.resp a.id a.reply
  trace : ∀ a ∈ asks, a.trace ⊆ t
  only : ∀ client req reply, (⟨.components client req, reply⟩ : Exchange) ∈ t →
    ∃ a ∈ asks, (⟨.components client req, reply⟩ : Exchange) = a.event

def IsComponents (e : Exchange) : Prop :=
  ∃ client req reply, e = ⟨.components client req, reply⟩

theorem not_isComponents {e : Exchange} {kinds : List ExchangeKind} (h : exchangeKind e ∈ kinds)
    (hu : .userComponents ∉ kinds) (hc : .cosignerComponents ∉ kinds) : ¬ IsComponents e := by
  rintro ⟨client, req, reply, rfl⟩
  simp only [exchangeKind] at h
  split at h
  · exact hc h
  · exact hu h

section Rounds

variable {calls : Calls} {requests : List (Option Client × ComponentRequest)} {t : Trace signer}
  {responses : List ComponentResponse} {asks : List Asking}

theorem Round.mem_trace (h : Round calls requests t responses asks) {a : Asking} (ha : a ∈ asks) :
    a.event ∈ t := h.trace a ha (h.asked a ha).sent

theorem Round.mem_requests (h : Round calls requests t responses asks) {a : Asking} (ha : a ∈ asks) :
    (some a.client, a.req) ∈ requests := h.requests ▸ List.mem_map_of_mem ha

/-- The requests of the round as they were asked. -/
theorem Round.exists_asking (h : Round calls requests t responses asks) {client : Option Client}
    {req : ComponentRequest} (hp : (client, req) ∈ requests) :
    ∃ a ∈ asks, client = some a.client ∧ req = a.req := by
  rw [← h.requests] at hp
  obtain ⟨a, ha, he⟩ := List.mem_map.mp hp
  exact ⟨a, ha, (congrArg Prod.fst he).symm, (congrArg Prod.snd he).symm⟩

/-- A round stays one in a longer trace that has no other component exchange. -/
theorem Round.extend (h : Round calls requests t responses asks) {t' : Trace signer} (ht : t ⊆ t')
    (hother : ∀ e ∈ t', IsComponents e → e ∈ t) : Round calls requests t' responses asks where
  requests := h.requests
  responses := h.responses
  asked := h.asked
  trace a ha := List.Subset.trans (h.trace a ha) ht
  only client req reply he := h.only client req reply (hother _ he ⟨client, req, reply, rfl⟩)

theorem Round.nil : Round calls [] [] [] [] where
  requests := rfl
  responses := rfl
  asked _ ha := absurd ha List.not_mem_nil
  trace _ ha := absurd ha List.not_mem_nil
  only _ _ _ he := absurd he List.not_mem_nil

theorem Round.cons (h : Round calls requests t responses asks) {a : Asking}
    (ha : Asked calls a.client a.req a.trace a.resp a.id a.reply) :
    Round calls ((some a.client, a.req) :: requests) (a.trace ++ t) (a.resp :: responses) (a :: asks) where
  requests := by rw [List.map_cons, h.requests]
  responses := by rw [List.map_cons, h.responses]
  asked := List.forall_mem_cons.mpr ⟨ha, h.asked⟩
  trace := List.forall_mem_cons.mpr ⟨List.subset_append_left .., fun b hb =>
    List.Subset.trans (h.trace b hb) (List.subset_append_right ..)⟩
  only client req reply he := by
    rcases List.mem_append.mp he with he | he
    · rcases ha.only _ he with he | ⟨purpose, ans, he⟩
      · exact ⟨a, List.mem_cons_self .., he⟩
      · cases he
    · obtain ⟨b, hb, hbe⟩ := h.only client req reply he
      exact ⟨b, List.mem_cons_of_mem _ hb, hbe⟩

/-- No position is named twice in the round. -/
def NamesOnce (requests : List (Option Client × ComponentRequest)) : Prop :=
  (requests.flatMap fun p => p.2.indices).Nodup

theorem Round.indices_nodup (h : Round calls requests t responses asks) (hd : NamesOnce requests) :
    (asks.flatMap fun a => a.req.indices).Nodup := by
  rw [NamesOnce, ← h.requests, List.flatMap_map] at hd
  exact hd

theorem Round.eq_of_index (h : Round calls requests t responses asks) (hd : NamesOnce requests)
    {a b : Asking} (ha : a ∈ asks) (hb : b ∈ asks) {i : ℤ} (hia : i ∈ a.req.indices)
    (hib : i ∈ b.req.indices) : a = b := by
  by_contra hne
  have hpair := (List.nodup_flatMap.mp (h.indices_nodup hd)).2
  have : Std.Symm (Function.onFun List.Disjoint fun a : Asking => a.req.indices) :=
    ⟨fun _ _ hxy => List.Disjoint.symm hxy⟩
  exact List.disjoint_left.mp (hpair.forall ha hb hne) hia hib

/-- The only exchange that names a position is that of its asking. -/
theorem Round.unique (h : Round calls requests t responses asks) (hd : NamesOnce requests)
    {a : Asking} (ha : a ∈ asks) {i : ℤ} (hi : i ∈ a.req.indices) {client : Client}
    {req : ComponentRequest} {reply : Reply ComponentResponse}
    (he : (⟨.components client req, reply⟩ : Exchange) ∈ t) (hreq : i ∈ req.indices) :
    (⟨.components client req, reply⟩ : Exchange) = a.event := by
  obtain ⟨b, hb, hbe⟩ := h.only client req reply he
  have hindices : req.indices = b.req.indices := by
    have := Event.mk.inj hbe
    cases this.1
    rfl
  rw [h.eq_of_index hd ha hb hi (hindices ▸ hreq)]
  exact hbe

theorem keys_signaturesOf (responses : List ComponentResponse) :
    (signaturesOf responses).map Prod.fst =
      responses.flatMap fun r => r.components.map (·.targetIndex) := by
  simp [signaturesOf, List.map_flatMap, Function.comp_def]

theorem indices_perm {req : ComponentRequest} {resp : ComponentResponse}
    (hreq : req.indices.Nodup) (h : ComponentsMatch req resp) :
    (resp.components.map (·.targetIndex)).Perm req.indices := by
  refine (List.perm_ext_iff_of_nodup h.nodup hreq).mpr fun i => ?_
  constructor
  · intro hi
    obtain ⟨c, hc, rfl⟩ := List.mem_map.mp hi
    obtain ⟨t, ht, he, -⟩ := h.asked c hc
    exact List.mem_map.mpr ⟨t, ht, he⟩
  · intro hi
    obtain ⟨t, ht, rfl⟩ := List.mem_map.mp hi
    obtain ⟨c, hc, he⟩ := h.answered t ht
    exact List.mem_map.mpr ⟨c, hc, he⟩

/-- The merged signatures of a round have one entry a position. -/
theorem Round.signatures_nodup (h : Round calls requests t responses asks) (hd : NamesOnce requests) :
    ((signaturesOf responses).map Prod.fst).Nodup := by
  rw [keys_signaturesOf, ← h.responses, List.flatMap_map]
  have hnodup := h.indices_nodup hd
  have heach := (List.nodup_flatMap.mp hnodup).1
  refine (List.Perm.nodup_iff (List.Perm.flatMap_left _ fun a ha => ?_)).mpr hnodup
  exact indices_perm (heach a ha) (h.asked a ha).components

/-- The signature of a position is that of the component its own request was
answered with, whatever the other parties of the round sent. -/
theorem Round.signatureAt (h : Round calls requests t responses asks) (hd : NamesOnce requests)
    {a : Asking} (ha : a ∈ asks) {c : Component} (hc : c ∈ a.resp.components) :
    signatureAt responses c.targetIndex = some ⟨c.signature, a.id⟩ := by
  refine lookup_of_mem ?_ (List.mem_reverse.mpr ?_)
  · rw [List.map_reverse, List.nodup_reverse]
    exact h.signatures_nodup hd
  · rw [signaturesOf, ← h.responses, List.mem_flatMap]
    exact ⟨a.resp, List.mem_map_of_mem ha, List.mem_map.mpr ⟨c, hc, by rw [(h.asked a ha).requestId]⟩⟩

end Rounds

section Askings

variable {calls : Calls} {d : Dialect} {user : Client} {frame : ComponentFrame}
  {targets : List GuardedSignTarget} {t : Trace signer} {responses : List ComponentResponse}

@[simp] theorem indices_componentRequestForIndices {kind : ComponentTargetKind} {key : String}
    {indices : List ℤ} :
    (componentRequestForIndices d frame kind key indices).indices = indices := by
  simp [ComponentRequest.indices, componentRequestForIndices, Function.comp_def]

theorem sortIndices_perm (indices : List ℤ) : (sortIndices indices).Perm indices :=
  List.perm_insertionSort _ _

/-- A round of `collect`: every element asks one client. -/
theorem round_of_collect {α : Type} (hl : calls.Lawful) {f : α → Flow ComponentResponse}
    (request : α → Option Client × ComponentRequest)
    (hf : ∀ x t resp, Runs (f x) t (.ok resp) → ∃ client, (request x).1 = some client ∧
      Runs (requestComponents calls client (request x).2) t (.ok resp)) :
    ∀ {xs : List α} {t : Trace signer} {responses : List ComponentResponse},
      Runs (collect f xs) t (.ok responses) → ∃ asks, Round calls (xs.map request) t responses asks
  | [], t, responses, h => by
    obtain ⟨rfl, hresp⟩ := h
    cases hresp
    exact ⟨[], Round.nil⟩
  | x :: xs, t, responses, h => by
    obtain ⟨resp, t₁, t₂, rfl, hx, hrest⟩ := runs_bind_ok.mp h
    obtain ⟨resps, t₃, t₄, rfl, hxs, rfl, hresps⟩ := runs_bind_ok.mp hrest
    cases hresps
    obtain ⟨client, hclient, hrun⟩ := hf _ _ _ hx
    obtain ⟨id, reply, hasked⟩ := requestComponents_ok hl hrun
    obtain ⟨asks, hround⟩ := round_of_collect hl request hf hxs
    have hreq : request x = (some client, (request x).2) := Prod.ext hclient rfl
    rw [List.map_cons, List.append_nil, hreq]
    exact ⟨_, hround.cons (a := ⟨client, (request x).2, t₁, resp, id, reply⟩) hasked⟩

/-- The requests of the user phase. -/
def userRequests (d : Dialect) (user : Client) (frame : ComponentFrame) (targets : List GuardedSignTarget) :
    List (Option Client × ComponentRequest) :=
  (userGroups d targets).map fun p => (some user, componentRequestForIndices d frame .user p.1 p.2)

theorem userRound (hl : d.Lawful)
    (h : Runs (requestUserComponentSignatures d user frame targets) t (.ok responses)) :
    ∃ asks, Round d.calls (userRequests d user frame targets) t responses asks :=
  round_of_collect hl.calls
    (fun p : String × List ℤ => (some user, componentRequestForIndices d frame .user p.1 p.2))
    (fun _ _ _ hrun => ⟨user, rfl, hrun⟩) h

theorem flatMap_groups_perm {α κ : Type} [DecidableEq κ] (key : α → κ) (index : α → ℤ) (xs : List α) :
    (((groupBy key xs).map fun p => (p.1, sortIndices (p.2.map index))).flatMap Prod.snd).Perm
      (xs.map index) := by
  rw [List.flatMap_map]
  refine (List.Perm.flatMap_left _ fun p _ => sortIndices_perm _).trans ?_
  rw [← List.map_flatMap]
  exact (flatMap_groupBy_perm key xs).map index

theorem namesOnce_userRequests (hn : (targets.map (·.targetIndex)).Nodup) :
    NamesOnce (userRequests d user frame targets) := by
  simp only [NamesOnce, userRequests, List.flatMap_map, indices_componentRequestForIndices, userGroups]
  refine (List.Perm.nodup_iff ?_).mpr hn
  exact ((List.perm_insertionSort _ _).flatMap_right _).trans (flatMap_groups_perm _ _ _)

theorem userPhase_nodup (hl : d.Lawful) (hn : (targets.map (·.targetIndex)).Nodup)
    (h : Runs (requestUserComponentSignatures d user frame targets) t (.ok responses)) :
    ((signaturesOf responses).map Prod.fst).Nodup := by
  obtain ⟨asks, hround⟩ := userRound hl h
  exact hround.signatures_nodup (namesOnce_userRequests hn)

/-- The request that names a target is the one for its account. -/
theorem mem_userRequests (d : Dialect) (user : Client) (frame : ComponentFrame)
    {targets : List GuardedSignTarget} {target : GuardedSignTarget} (h : target ∈ targets) :
    ∃ indices, target.targetIndex ∈ indices ∧
      (some user, componentRequestForIndices d frame .user target.guardedAccount indices) ∈
        userRequests d user frame targets := by
  have hgroup := exists_mem_groupBy (fun t : GuardedSignTarget => t.guardedAccount) h
  have hmem := (List.mem_insertionSort (r := fun a b => d.accountLe a.1 b.1 = true)).mpr
    (List.mem_map_of_mem (f := fun p => (p.1, sortIndices (p.2.map (·.targetIndex)))) hgroup)
  refine ⟨_, ?_, List.mem_map_of_mem hmem⟩
  refine (sortIndices_perm _).mem_iff.mpr (List.mem_map_of_mem (List.mem_filter.mpr ⟨h, ?_⟩))
  simp

/-- The requests of the cosigner phase, in the order they are asked. -/
def cosignerRequests (d : Dialect) (frame : ComponentFrame) (groups : List CosignerGroup) :
    List (Option Client × ComponentRequest) :=
  groups.map fun g => (g.1.1, componentRequestForIndices d frame .cosigner g.1.2 g.2)

theorem cosignerRound (hl : d.Lawful) {cosigner : CosignerOptions}
    (h : Runs (requestCosignerComponentSignatures d cosigner frame targets) t (.ok responses)) :
    ∃ resolved groups asks, resolveAll d cosigner targets = .ok resolved ∧
      groups.Perm (cosignerGroups resolved) ∧
      Round d.calls (cosignerRequests d frame groups) t responses asks := by
  obtain ⟨resolved, hres, h⟩ := runs_lift_bind_ok.mp h
  obtain ⟨groups, t₁, t₂, rfl, horder, hcollect⟩ := runs_bind_ok.mp h
  have hask : ∀ (g : CosignerGroup) (t : Trace signer) (resp : ComponentResponse),
      Runs (requestCosignerGroup d frame g) t (.ok resp) → ∃ client, g.1.1 = some client ∧
        Runs (requestComponents d.calls client
          (componentRequestForIndices d frame .cosigner g.1.2 g.2)) t (.ok resp) := by
    intro g t resp hrun
    unfold requestCosignerGroup at hrun
    split at hrun
    · cases hrun.2
    · exact ⟨_, ‹_›, hrun⟩
  obtain ⟨asks, hround⟩ := round_of_collect hl.calls
    (fun g => (g.1.1, componentRequestForIndices d frame .cosigner g.1.2 g.2)) hask hcollect
  refine ⟨resolved, groups, asks, hres, hl.order horder,
    hround.extend (List.subset_append_right ..) fun e he hcomp => ?_⟩
  -- the order of the groups is no component exchange
  rcases List.mem_append.mp he with he | he
  · have hkind := hl.emits_order (S := fun e => exchangeKind e ∈ [.order])
      (fun _ => List.mem_singleton_self _) _ _ horder _ he
    exact absurd hcomp (not_isComponents hkind (by decide) (by decide))
  · exact he

theorem resolveAll_ok {cosigner : CosignerOptions} {resolved : List ((Option Client × String) × ℤ)}
    (h : resolveAll d cosigner targets = .ok resolved) :
    resolved.map Prod.snd = targets.map (·.targetIndex) ∧ ∀ target ∈ targets, ∃ r,
      resolveGuardedCosigner d cosigner target = .ok r ∧ (r, target.targetIndex) ∈ resolved := by
  obtain ⟨hlen, hall⟩ := mapEach_ok.mp h
  have heach : ∀ (j : ℕ) target, targets[j]? = some target → ∃ r,
      resolveGuardedCosigner d cosigner target = .ok r ∧ resolved[j]? = some (r, target.targetIndex) := by
    intro j target hj
    obtain ⟨hlt, -⟩ := List.getElem?_eq_some_iff.mp hj
    have hr := List.getElem?_eq_getElem (hlen ▸ hlt : j < resolved.length)
    have hf := hall j target _ hj hr
    simp only [bind_eq_ok, pure_eq_ok] at hf
    obtain ⟨r, hres, he⟩ := hf
    exact ⟨r, hres, he ▸ hr⟩
  constructor
  · refine List.ext_getElem? fun j => ?_
    rw [List.getElem?_map, List.getElem?_map]
    cases hj : targets[j]? with
    | none =>
      rw [List.getElem?_eq_none_iff] at hj
      rw [List.getElem?_eq_none_iff.mpr (hlen ▸ hj)]
      rfl
    | some target =>
      obtain ⟨r, -, hr⟩ := heach j target hj
      rw [hr]
      rfl
  · intro target ht
    obtain ⟨j, hj⟩ := List.mem_iff_getElem?.mp ht
    obtain ⟨r, hres, hr⟩ := heach j target hj
    exact ⟨r, hres, List.mem_of_getElem? hr⟩

variable {cosigner : CosignerOptions} {resolved : List ((Option Client × String) × ℤ)}
  {groups : List CosignerGroup}

theorem namesOnce_cosignerRequests (hn : (targets.map (·.targetIndex)).Nodup)
    (hres : resolveAll d cosigner targets = .ok resolved)
    (hperm : groups.Perm (cosignerGroups resolved)) : NamesOnce (cosignerRequests d frame groups) := by
  simp only [NamesOnce, cosignerRequests, List.flatMap_map, indices_componentRequestForIndices]
  refine (List.Perm.nodup_iff ?_).mpr ((resolveAll_ok hres).1 ▸ hn)
  exact (hperm.flatMap_right _).trans (flatMap_groups_perm _ _ _)

theorem cosignerPhase_nodup (hl : d.Lawful) (hn : (targets.map (·.targetIndex)).Nodup)
    (h : Runs (requestCosignerComponentSignatures d cosigner frame targets) t (.ok responses)) :
    ((signaturesOf responses).map Prod.fst).Nodup := by
  obtain ⟨resolved, groups, asks, hres, hperm, hround⟩ := cosignerRound hl h
  exact hround.signatures_nodup (namesOnce_cosignerRequests hn hres hperm)

/-- The request that names a target is the one for the cosigner it resolves to. -/
theorem mem_cosignerRequests (frame : ComponentFrame) (hres : resolveAll d cosigner targets = .ok resolved)
    (hperm : groups.Perm (cosignerGroups resolved)) {target : GuardedSignTarget} (h : target ∈ targets) :
    ∃ client key indices, resolveGuardedCosigner d cosigner target = .ok (client, key) ∧
      target.targetIndex ∈ indices ∧
      (client, componentRequestForIndices d frame .cosigner key indices) ∈ cosignerRequests d frame groups := by
  obtain ⟨r, hr, hmem⟩ := (resolveAll_ok hres).2 target h
  have hgroup := exists_mem_groupBy Prod.fst hmem
  have hin := hperm.mem_iff.mpr
    (List.mem_map_of_mem (f := fun p => (p.1, sortIndices (p.2.map Prod.snd))) hgroup)
  refine ⟨r.1, r.2, _, hr, ?_, List.mem_map_of_mem hin⟩
  refine (sortIndices_perm _).mem_iff.mpr (List.mem_map.mpr ⟨_, List.mem_filter.mpr ⟨hmem, ?_⟩, rfl⟩)
  simp

end Askings

/-! ### The primary phase -/

section Primary

variable {calls : Calls} {d : Dialect} {user : Client} {t : Trace signer}

theorem signGroup_ok {requests : List SignRequest} {resp : GroupSignResponse}
    (h : Runs (signGroup calls user requests) t (.ok resp)) :
    ∃ id reply, (⟨.sign user ⟨id, requests⟩, reply⟩ : Exchange) ∈ t ∧
      calls.acceptSign ⟨id, requests⟩ reply = .ok resp ∧
      ∀ e ∈ t, exchangeKind e = .sign → e = ⟨.sign user ⟨id, requests⟩, reply⟩ := by
  obtain ⟨id, t₁, reply, hfill, -, rfl, hacc⟩ := runs_exchange_ok.mp h
  refine ⟨id, reply, by simp, hacc, fun e he hkind => ?_⟩
  rcases List.mem_append.mp he with he | he
  · obtain ⟨bytes, rfl, -⟩ := newRequestId_ok.mp hfill
    cases List.mem_singleton.mp he
    cases hkind
  · exact List.mem_singleton.mp he

/-- Every primary position is forwarded as the primary signer returned it. -/
theorem forwardAll_ok {verifies : Bool} {group signed : List String}
    {primaries : List GuardedPrimarySignTarget} {items : List AssemblyPassthroughItem} :
    forwardAll d verifies group signed primaries = .ok items ↔
      items = (sortIndices (primaries.map (·.targetIndex))).map
        (fun i => { targetIndex := i, signedTxnHex := signed.getD i.toNat "" }) ∧
      ∀ p ∈ primaries, signed.getD p.targetIndex.toNat "" ≠ "" ∧
        (verifies = true → d.matchesCanonical "primary passthrough" p.targetIndex.toNat
          (signed.getD p.targetIndex.toNat "") (group.getD p.targetIndex.toNat "") = .ok ()) := by
  have hforward : ∀ i item, forwardPrimary d verifies group signed i = .ok item ↔
      (signed.getD i.toNat "" ≠ "" ∧ (verifies = true → d.matchesCanonical "primary passthrough" i.toNat
        (signed.getD i.toNat "") (group.getD i.toNat "") = .ok ())) ∧
      item = { targetIndex := i, signedTxnHex := signed.getD i.toNat "" } := by
    intro i item
    simp only [forwardPrimary, seq_eq_ok, failIf_ok, checkWhen_ok, pure_eq_ok, and_assoc, ne_eq]
    exact and_congr_right fun _ => and_congr_right fun _ => eq_comm
  rw [forwardAll, mapEach_pure hforward]
  refine and_congr_right fun _ => ?_
  simp only [(sortIndices_perm _).mem_iff, List.forall_mem_map]

end Primary

end AplaneSdk
