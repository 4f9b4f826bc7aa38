/-
# Signing does not depend on the order of the lists

The callers of a choreography name its targets in some order, and Go ranges
over maps in any. Two runs whose questions are answered alike, up to the ids of
the requests, end alike all the same: they fail together, or they have the same
group assembled, from the same targets and items, and return it.

Key definitions: `AnsweredAlike`, `upToIds`, `Go.MapOrder`, `EndAlike`.
Key theorems: `follows_requestComponents`, `follows_closing`,
`guarded_follows`, `bounded_follows`, `Go.sameRuns_guarded`,
`signing_order_independent`.
-/
import AplaneSdk.Lib.Comparison
import AplaneSdk.Builders

namespace AplaneSdk

open Checks Grouping Interaction Interaction.Prog

/-! ### Answers, up to the ids of requests -/

def ComponentRequest.withoutId (r : ComponentRequest) : ComponentRequest := { r with requestId := "" }

def AssemblyTarget.withoutIds (t : AssemblyTarget) : AssemblyTarget :=
  { t with userSourceRequestId := "", baseSourceRequestId := "", cosignerSourceRequestId := "" }

def AssemblyRequest.withoutIds (r : AssemblyRequest) : AssemblyRequest :=
  { r with requestId := "", targets := r.targets.map (·.withoutIds) }

/-- Two responses name the requests they answer, or the same other request. -/
def NamesAlike (id id' named named' : String) : Prop :=
  named = id ∧ named' = id' ∨ named ≠ id ∧ named' ≠ id' ∧ named = named'

structure SameComponents (id id' : String) (resp resp' : ComponentResponse) : Prop where
  names : NamesAlike id id' resp.requestId resp'.requestId
  components : resp.components = resp'.components
  error : resp.error = resp'.error

structure SameAssembled (id id' : String) (resp resp' : AssemblyResponse) : Prop where
  names : NamesAlike id id' resp.requestId resp'.requestId
  signedGroup : resp.signedGroup = resp'.signedGroup
  error : resp.error = resp'.error

/-- Two exchanges that ask the same, up to the ids of requests, are answered the
same, up to these ids. Ids are drawn in both or in neither, and the order of a
Go map is open. -/
def AnsweredAlike : Exchange → Exchange → Prop
  | ⟨.keyInfo client address, found⟩, ⟨.keyInfo client' address', found'⟩ =>
    client = client' → address = address' → ∀ key, found = .ok key ↔ found' = .ok key
  | ⟨.newRequestId purpose, drawn⟩, ⟨.newRequestId purpose', drawn'⟩ =>
    purpose = purpose' → drawn.isSome = drawn'.isSome
  | ⟨.plan client requests, reply⟩, ⟨.plan client' requests', reply'⟩ =>
    client = client' → requests = requests' → reply.okBody = reply'.okBody
  | ⟨.components client req, reply⟩, ⟨.components client' req', reply'⟩ =>
    client = client' → req.withoutId = req'.withoutId →
      Option.Rel (SameComponents req.requestId req'.requestId) reply.okBody reply'.okBody
  | ⟨.sign client req, reply⟩, ⟨.sign client' req', reply'⟩ =>
    client = client' → req.requests = req'.requests → reply.okBody = reply'.okBody
  | ⟨.assemble client req, reply⟩, ⟨.assemble client' req', reply'⟩ =>
    client = client' → req.withoutIds = req'.withoutIds →
      Option.Rel (SameAssembled req.requestId req'.requestId) reply.okBody reply'.okBody
  | _, _ => True

/-- The assembly request of an exchange, if it is one. -/
def assemblyOf (e : Exchange) : List (Client × AssemblyRequest) :=
  match e.op with
  | .assemble client req => [(client, req)]
  | _ => []

/-- Runs are compared by their assembly requests. -/
def upToIds : Comparison signer (Client × AssemblyRequest) where
  alike := AnsweredAlike
  see := assemblyOf
  same a b := a.1 = b.1 ∧ a.2.withoutIds = b.2.withoutIds

theorem NamesAlike.symm {id id' named named' : String} (h : NamesAlike id id' named named') :
    NamesAlike id' id named' named :=
  h.imp And.symm fun ⟨h₁, h₂, h₃⟩ => ⟨h₂, h₁, h₃.symm⟩

theorem optionRel_symm {α : Type} {R R' : α → α → Prop} {x y : Option α} (h : Option.Rel R x y)
    (hsymm : ∀ a b, R a b → R' b a) : Option.Rel R' y x := by
  cases h with
  | some hab => exact .some (hsymm _ _ hab)
  | none => exact .none

theorem AnsweredAlike.symm {e e' : Exchange} (h : AnsweredAlike e e') : AnsweredAlike e' e := by
  obtain ⟨op, ans⟩ := e
  obtain ⟨op', ans'⟩ := e'
  cases op <;> cases op' <;> try exact trivial
  case keyInfo.keyInfo => exact fun hc ha key => (h hc.symm ha.symm key).symm
  case newRequestId.newRequestId => exact fun hp => (h hp.symm).symm
  case plan.plan => exact fun hc hr => (h hc.symm hr.symm).symm
  case components.components =>
    exact fun hc hr => optionRel_symm (h hc.symm hr.symm) fun _ _ hs => ⟨hs.names.symm, hs.components.symm, hs.error.symm⟩
  case sign.sign => exact fun hc hr => (h hc.symm hr.symm).symm
  case assemble.assemble =>
    exact fun hc hr => optionRel_symm (h hc.symm hr.symm) fun _ _ hs => ⟨hs.names.symm, hs.signedGroup.symm, hs.error.symm⟩

theorem see_of_kind {e : Exchange} (h : exchangeKind e ≠ .assemble) : upToIds.see e = [] := by
  obtain ⟨op, ans⟩ := e
  cases op with
  | assemble => exact absurd rfl h
  | _ => rfl

theorem OnlyKinds.unseen {α : Type} {kinds : List ExchangeKind} {p : Flow α} (h : OnlyKinds kinds p)
    (hk : .assemble ∉ kinds) : Emits (fun e => upToIds.see e = []) p :=
  fun t r hr _ he => see_of_kind (kind_ne (h t r hr) hk he)

/-! ### Calls -/

section Calls

variable {env : Env} {L : Language} {client : Client}

theorem follows_exchange {ω : Type} {C : Comparison signer ω} {α α' Req Req' Resp Resp' : Type} {fill : Flow α}
    {fill' : Flow α'} {send : α → Req} {send' : α' → Req'} {validate : Req → Except SdkError Unit}
    {validate' : Req' → Except SdkError Unit} {op : Req → Op} {op' : Req' → Op}
    {accept : (req : Req) → (op req).Ans → Except SdkError Resp}
    {accept' : (req : Req') → (op' req).Ans → Except SdkError Resp'} {F : α → α' → Prop} {R : Resp → Resp' → Prop}
    (hfill : Follows C F fill fill')
    (hvalid : ∀ a a', F a a' → validate (send a) = .ok () → validate' (send' a') = .ok ())
    (hsee : ∀ a a' reply reply', F a a' →
      List.Forall₂ C.same (C.see ⟨op (send a), reply⟩) (C.see ⟨op' (send' a'), reply'⟩))
    (haccept : ∀ a a' reply reply' resp, F a a' → validate (send a) = .ok () →
      C.alike ⟨op (send a), reply⟩ ⟨op' (send' a'), reply'⟩ → accept (send a) reply = .ok resp →
        ∃ resp', accept' (send' a') reply' = .ok resp' ∧ R resp resp') :
    Follows C R (exchange fill send validate op accept) (exchange fill' send' validate' op' accept') := by
  refine follows_bind hfill fun _ a _ a' _ _ ha => follows_lift_bind fun _ hv => ⟨(), hvalid a a' ha hv, ?_⟩
  intro t resp t' r hrun hrun' halike
  obtain ⟨reply, t₁, t₂, rfl, hq, hacc⟩ := runs_bind_ok.mp hrun
  obtain ⟨_, rfl, hreply⟩ := runs_query.mp hq
  cases hreply
  rcases runs_bind.mp hrun' with ⟨e, hq', -⟩ | ⟨reply', t₁', t₂', rfl, hq', hacc'⟩
  · obtain ⟨_, -, he⟩ := runs_query.mp hq'
    cases he
  obtain ⟨_, rfl, hreply'⟩ := runs_query.mp hq'
  cases hreply'
  obtain ⟨rfl, hacc⟩ := hacc
  obtain ⟨rfl, hacc'⟩ := hacc'
  have hasked := halike ⟨op (send a), reply⟩ (by simp) ⟨op' (send' a'), reply'⟩ (by simp)
  obtain ⟨resp', hresp', hrel⟩ := haccept a a' reply reply' resp ha hv hasked hacc.symm
  refine ⟨resp', hacc'.trans hresp', hrel, ?_⟩
  rw [Comparison.seen, Comparison.seen, List.append_nil, List.append_nil, List.flatMap_singleton,
    List.flatMap_singleton]
  exact hsee a a' reply reply' ha

/-- Two ids for one request. -/
structure IdsAlike (env : Env) (L : Language) (id id' : String) : Prop where
  ne : id ≠ ""
  ne' : id' ≠ ""
  ok : L.IdOk env id → L.IdOk env id'

theorem follows_newRequestId (henv : env.KnowsAscii) {name : String} {purpose : Purpose} :
    Follows upToIds.blind (fun id id' => IdsAlike env L id id' ∧ L.IdOk env id')
      (newRequestId (L.dialect env).calls name purpose) (newRequestId (L.dialect env).calls name purpose) := by
  refine follows_bind (follows_query fun a b h => h rfl) fun _ drawn _ drawn' _ _ hsome => ?_
  cases drawn with
  | none =>
    intro t a t' r hrun
    cases hrun.2
  | some bytes =>
    obtain ⟨bytes', rfl⟩ := Option.isSome_iff_exists.mp (hsome.symm.trans rfl)
    have hid := L.idOk_of_valid henv (validRequestId_newSignRequestId bytes'.property)
    exact follows_pure ⟨⟨newSignRequestId_ne_empty _, newSignRequestId_ne_empty _, fun _ => hid⟩, hid⟩

theorem follows_fillRequestId (henv : env.KnowsAscii) {name id : String} {purpose : Purpose} :
    Follows upToIds.blind (IdsAlike env L) (fillRequestId (L.dialect env).calls name purpose id)
      (fillRequestId (L.dialect env).calls name purpose id) := by
  unfold fillRequestId
  split
  · exact (follows_newRequestId henv).imp fun _ _ h => h.1
  · exact follows_pure ⟨‹_›, ‹_›, fun h => h⟩

/-- What the body of an accepted component response says of errors. -/
def Language.ErrorOk : Language → String → Prop
  | go, _ => True
  | _, error => error = ""

theorem acceptComponents_exact {req : ComponentRequest} {reply : Reply ComponentResponse}
    {resp : ComponentResponse} (hv : (L.dialect env).calls.validateComponentRequest req = .ok ())
    (hne : req.requestId ≠ "") :
    (L.dialect env).calls.acceptComponents req reply = .ok resp ↔
      reply.okBody = some resp ∧ L.ErrorOk resp.error ∧ resp.requestId = req.requestId ∧
        ComponentsMatch req resp := by
  obtain ⟨hid, hok⟩ := validateComponentRequest_iff.mp hv
  cases L with
  | go =>
    refine (Go.acceptComponents_ok hok hid hne).trans ?_
    simp [Language.ErrorOk]
  | python => exact Python.acceptComponents_ok hok hid hne
  | typescript => exact TypeScript.acceptComponents_ok hok hid hne

theorem componentRequestOk_id {hasArgs : Option (List (String × String)) → Bool} {req : ComponentRequest} {id : String}
    (h : ComponentRequestOk hasArgs { req with requestId := id }) (id' : String) :
    ComponentRequestOk hasArgs { req with requestId := id' } :=
  ⟨h.bytes, h.targets_ne, h.dummies_le, h.range, h.nodup, h.cover, h.kinds, h.context, h.suffix⟩

/-- Two accepted responses to one request. -/
structure SameResponse (env : Env) (L : Language) (resp resp' : ComponentResponse) : Prop where
  components : resp.components = resp'.components
  ok : L.IdOk env resp'.requestId

theorem follows_requestComponents (henv : env.KnowsAscii) {req : ComponentRequest} :
    Follows upToIds.blind (SameResponse env L) (requestComponents (L.dialect env).calls client req)
      (requestComponents (L.dialect env).calls client req) := by
  have hvalid : ∀ id id', IdsAlike env L id id' →
      (L.dialect env).calls.validateComponentRequest { req with requestId := id } = .ok () →
        (L.dialect env).calls.validateComponentRequest { req with requestId := id' } = .ok () := by
    intro id id' hids hv
    obtain ⟨hid, hok⟩ := validateComponentRequest_iff.mp hv
    exact validateComponentRequest_iff.mpr ⟨hids.ok hid, componentRequestOk_id hok id'⟩
  refine follows_exchange (follows_fillRequestId henv) (fun id id' hids hv => ?_) (fun _ _ _ _ _ => .nil)
    fun id id' reply reply' resp hids hv halike hacc => ?_
  · exact mapErr_ok.mpr (hvalid id id' hids (mapErr_ok.mp hv))
  · have hv' := hvalid id id' hids (mapErr_ok.mp hv)
    obtain ⟨hbody, herror, hnamed, hmatch⟩ := (acceptComponents_exact (mapErr_ok.mp hv) hids.ne).mp hacc
    have hrel : Option.Rel (SameComponents id id') reply.okBody reply'.okBody := halike rfl rfl
    rw [hbody] at hrel
    generalize hbody' : reply'.okBody = body' at hrel
    cases hrel with
    | some hsame =>
      rename_i resp'
      have hnamed' : resp'.requestId = id' := by
        rcases hsame.names with h | h
        · exact h.2
        · exact absurd hnamed h.1
      refine ⟨resp', (acceptComponents_exact hv' hids.ne').mpr ⟨hbody', hsame.error ▸ herror, hnamed', ?_⟩,
        hsame.components, ?_⟩
      · obtain ⟨hnodup, hasked, hanswered, hmaterial⟩ := hmatch
        rw [hsame.components] at hnodup hasked hanswered hmaterial
        exact ⟨hnodup, hasked, hanswered, hmaterial⟩
      · rw [hnamed']
        exact (validateComponentRequest_iff.mp hv').1

theorem acceptSign_body {req req' : GroupSignRequest} {reply reply' : Reply GroupSignResponse}
    {resp : GroupSignResponse} (hreq : EntriesOk req.requests) (hsame : req.requests = req'.requests)
    (hbody : reply.okBody = reply'.okBody) (h : (L.dialect env).calls.acceptSign req reply = .ok resp) :
    (L.dialect env).calls.acceptSign req' reply' = .ok resp := by
  cases L with
  | go =>
    refine (Go.acceptSign_ok (hsame ▸ hreq)).mpr ?_
    rw [← hbody, ← hsame]
    exact (Go.acceptSign_ok hreq).mp h
  | python =>
    refine Python.acceptSign_ok.mpr ?_
    rw [← hbody, ← hsame]
    exact Python.acceptSign_ok.mp h
  | typescript =>
    refine TypeScript.acceptSign_ok.mpr ?_
    rw [← hbody, ← hsame]
    exact TypeScript.acceptSign_ok.mp h

theorem follows_signGroup (henv : env.KnowsAscii) {requests : List SignRequest} :
    Follows upToIds.blind Eq (signGroup (L.dialect env).calls client requests)
      (signGroup (L.dialect env).calls client requests) := by
  refine follows_exchange (follows_newRequestId henv) (fun id id' hids hv => ?_) (fun _ _ _ _ _ => .nil)
    fun id id' reply reply' resp hids hv halike hacc => ?_
  · have hentries : EntriesOk requests := validateGroupSignRequest_entries hv
    exact (validateGroupSignRequest_iff hids.2 hids.1.ne').mpr hentries
  · exact ⟨resp, acceptSign_body (validateGroupSignRequest_entries hv) rfl (halike rfl rfl) hacc, rfl⟩

theorem acceptPlan_body {reply reply' : Reply PlanGroupResponse} {resp : PlanGroupResponse}
    (hbody : reply.okBody = reply'.okBody) (h : (L.dialect env).calls.acceptPlan reply = .ok resp) :
    (L.dialect env).calls.acceptPlan reply' = .ok resp := by
  cases L with
  | go =>
    simp only [Language.dialect, Go.dialect, Go.calls, Go.acceptPlan, bind_eq_ok, decodeReply_ok] at h ⊢
    rwa [← hbody]
  | python =>
    simp only [Language.dialect, Python.dialect, Python.calls, Python.acceptPlan, bind_eq_ok, decodeReply_ok] at h ⊢
    rwa [← hbody]
  | typescript =>
    simp only [Language.dialect, TypeScript.dialect, TypeScript.calls, TypeScript.acceptPlan, bind_eq_ok,
      decodeReply_ok] at h ⊢
    rwa [← hbody]

theorem follows_planRequests {requests : List SignRequest} :
    Follows upToIds.blind Eq (planRequests (L.dialect env).calls client requests)
      (planRequests (L.dialect env).calls client requests) := by
  refine follows_exchange (F := Eq) (follows_pure rfl) (fun _ _ _ hv => hv) (fun _ _ _ _ _ => .nil)
    fun _ _ reply reply' resp _ _ halike hacc => ?_
  exact ⟨resp, acceptPlan_body (halike rfl rfl) hacc, rfl⟩

/-- Two targets of an assembly, of which one passes the checks if the other does. -/
structure SameTarget (env : Env) (L : Language) (T T' : AssemblyTarget) : Prop where
  same : T.withoutIds = T'.withoutIds
  ok : T.Ok (L.IdOk env) L.hasArgs → T'.Ok (L.IdOk env) L.hasArgs

/-- Two assembly requests for one group. -/
structure SameRequest (env : Env) (L : Language) (req req' : AssemblyRequest) : Prop where
  requestId : req.requestId = req'.requestId
  group : req.groupBytesHex = req'.groupBytesHex
  targets : List.Forall₂ (SameTarget env L) req.targets req'.targets
  passthrough : req.passthrough = req'.passthrough

/-- What two targets of an assembly have in common, they have in common in a list. -/
theorem SameRequest.map_targets {β : Type} {req req' : AssemblyRequest} (h : SameRequest env L req req')
    (f : AssemblyTarget → β) : req.targets.map (fun T => f T.withoutIds) = req'.targets.map (fun T => f T.withoutIds) := by
  rw [← List.forall₂_eq_eq_eq, List.forall₂_map_left_iff, List.forall₂_map_right_iff]
  exact h.targets.imp fun _ _ hT => congrArg f hT.same

theorem SameRequest.withoutIds {req req' : AssemblyRequest} (h : SameRequest env L req req') (id id' : String) :
    (req.sent id).withoutIds = (req'.sent id').withoutIds := by
  have htargets : req.targets.map (·.withoutIds) = req'.targets.map (·.withoutIds) := h.map_targets fun T => T
  unfold AssemblyRequest.withoutIds AssemblyRequest.sent
  dsimp only
  rw [h.group, htargets, h.passthrough]

theorem SameRequest.ok {req req' : AssemblyRequest} (h : SameRequest env L req req') {id : String} (id' : String)
    (hok : AssemblyRequestOk (L.IdOk env) L.hasArgs (req.sent id)) :
    AssemblyRequestOk (L.IdOk env) L.hasArgs (req'.sent id') := by
  have hindices : (req.sent id).indices = (req'.sent id').indices := by
    have htargets : req.targets.map (·.targetIndex) = req'.targets.map (·.targetIndex) :=
      h.map_targets (·.targetIndex)
    unfold AssemblyRequest.indices AssemblyRequest.sent
    dsimp only
    rw [htargets, h.passthrough]
  obtain ⟨hbytes, hrange, hnodup, hcover, htargets, hitems⟩ := hok
  rw [hindices] at hrange hnodup hcover
  have hgroup : (req.sent id).groupBytesHex = (req'.sent id').groupBytesHex := h.group
  have hpass : (req.sent id).passthrough = (req'.sent id').passthrough :=
    congrArg (List.map AssemblyPassthroughItem.wire) h.passthrough
  rw [hgroup] at hbytes hrange hcover
  rw [hpass] at hitems
  refine ⟨hbytes, hrange, hnodup, hcover, ?_, hitems⟩
  have hboth := (List.forall₂_and_left _ _).mpr ⟨htargets, h.targets⟩
  have hright : List.Forall₂ (fun T' T => T'.Ok (L.IdOk env) L.hasArgs ∧ SameTarget env L T T') req'.targets
      req.targets := (hboth.imp fun _ _ hT => (⟨hT.2.ok hT.1, hT.2⟩ : _ ∧ _)).flip
  exact ((List.forall₂_and_left _ _).mp hright).1

/-- A response names a request validly if the other does. -/
theorem NamesAlike.ok {id id' named named' : String} (h : NamesAlike id id' named named') (hids : IdsAlike env L id id')
    (hok : named ≠ "" ∧ L.IdOk env named) : named' ≠ "" ∧ L.IdOk env named' := by
  rcases h with ⟨rfl, rfl⟩ | ⟨-, -, rfl⟩
  · exact ⟨hids.ne', hids.ok hok.2⟩
  · exact hok

theorem acceptAssembly_body {req req' : AssemblyRequest} {reply reply' : Reply AssemblyResponse}
    {resp : AssemblyResponse} (hids : IdsAlike env L req.requestId req'.requestId)
    (hbody : Option.Rel (SameAssembled req.requestId req'.requestId) reply.okBody reply'.okBody)
    (h : (L.dialect env).calls.acceptAssembly req reply = .ok resp) :
    ∃ resp', (L.dialect env).calls.acceptAssembly req' reply' = .ok resp' ∧
      resp.signedGroup = resp'.signedGroup := by
  have hsome : ∀ {body : AssemblyResponse}, reply.okBody = some body → ∃ body', reply'.okBody = some body' ∧
      SameAssembled req.requestId req'.requestId body body' := by
    intro body hok
    rw [hok] at hbody
    generalize reply'.okBody = other at hbody
    cases hbody with
    | some hsame => exact ⟨_, rfl, hsame⟩
  cases L with
  | go =>
    obtain ⟨hok, hne, hid, hgroup⟩ := (Go.acceptAssembly_ok req).mp h
    obtain ⟨resp', hok', hsame⟩ := hsome hok
    obtain ⟨hne', hid'⟩ := hsame.names.ok hids ⟨hne, hid⟩
    exact ⟨resp', (Go.acceptAssembly_ok req').mpr ⟨hok', hne', hid', hsame.signedGroup ▸ hgroup⟩, hsame.signedGroup⟩
  | python =>
    obtain ⟨hok, herror, hne, hid, hgroup, hnamed⟩ := (Python.acceptAssembly_ok req).mp h
    obtain ⟨resp', hok', hsame⟩ := hsome hok
    obtain ⟨hne', hid'⟩ := hsame.names.ok hids ⟨hne, hid⟩
    have hnamed' : resp'.requestId = req'.requestId := by
      rcases hsame.names with hnames | hnames
      · exact hnames.2
      · exact absurd hnamed hnames.1
    exact ⟨resp', (Python.acceptAssembly_ok req').mpr ⟨hok', hsame.error ▸ herror, hne', hid',
      hsame.signedGroup ▸ hgroup, hnamed'⟩, hsame.signedGroup⟩
  | typescript =>
    obtain ⟨hok, herror, hne, hid, hgroup⟩ := (TypeScript.acceptAssembly_ok req).mp h
    obtain ⟨resp', hok', hsame⟩ := hsome hok
    obtain ⟨hne', hid'⟩ := hsame.names.ok hids ⟨hne, hid⟩
    exact ⟨resp', (TypeScript.acceptAssembly_ok req').mpr ⟨hok', hsame.error ▸ herror, hne', hid',
      hsame.signedGroup ▸ hgroup⟩, hsame.signedGroup⟩

theorem follows_requestAssemble (henv : env.KnowsAscii) {req req' : AssemblyRequest} (h : SameRequest env L req req') :
    Follows upToIds (fun resp resp' => resp.signedGroup = resp'.signedGroup)
      (requestAssemble (L.dialect env).calls client req) (requestAssemble (L.dialect env).calls client req') := by
  have hfill : Follows upToIds (IdsAlike env L)
      (fillRequestId (L.dialect env).calls "assembly" .assemble req.requestId)
      (fillRequestId (L.dialect env).calls "assembly" .assemble req'.requestId) := by
    rw [← h.requestId]
    exact follows_of_blind (follows_fillRequestId henv) (emits_fillRequestId fun _ => rfl)
      (emits_fillRequestId fun _ => rfl)
  refine follows_exchange hfill (fun id id' hids hv => ?_) (fun id id' _ _ _ => ?_)
    fun id id' reply reply' resp hids hv halike hacc => ?_
  · obtain ⟨hid, hok⟩ := validateAssemblyRequest_iff.mp (mapErr_ok.mp hv)
    exact mapErr_ok.mpr (validateAssemblyRequest_iff.mpr ⟨hids.ok hid, h.ok id' hok⟩)
  · exact .cons ⟨rfl, h.withoutIds id id'⟩ .nil
  · exact acceptAssembly_body hids (halike rfl (h.withoutIds id id')) hacc

end Calls

/-! ### Component signatures -/

section Components

variable {env : Env} {L : Language} {frame : ComponentFrame} {targets : List GuardedSignTarget}

/-- The responses of one round, which one of the runs may have asked for in
another order. -/
def SameResponses (env : Env) (L : Language) (responses responses' : List ComponentResponse) : Prop :=
  ∃ reordered, reordered.Perm responses ∧ List.Forall₂ (SameResponse env L) reordered responses'

structure SameSignature (env : Env) (L : Language) (s s' : ComponentSignature) : Prop where
  signature : s.signature = s'.signature
  ok : L.IdOk env s'.requestId

theorem signaturesOf_same {responses responses' : List ComponentResponse}
    (h : List.Forall₂ (SameResponse env L) responses responses') :
    List.Forall₂ (fun p q => p.1 = q.1 ∧ SameSignature env L p.2 q.2) (signaturesOf responses)
      (signaturesOf responses') := by
  induction h with
  | nil => exact .nil
  | @cons resp resp' _ _ hresp _ ih =>
    refine List.rel_append ?_ ih
    dsimp only
    rw [hresp.components, List.forall₂_map_left_iff, List.forall₂_map_right_iff]
    exact List.forall₂_same.mpr fun c _ => ⟨rfl, rfl, hresp.ok⟩

/-- A position has the same signature in both runs. -/
theorem SameResponses.signatureAt {responses responses' : List ComponentResponse}
    (h : SameResponses env L responses responses') (hn : ((signaturesOf responses).map Prod.fst).Nodup) {i : ℤ}
    {s : ComponentSignature} (hs : signatureAt responses i = some s) :
    ∃ s', AplaneSdk.signatureAt responses' i = some s' ∧ SameSignature env L s s' := by
  obtain ⟨reordered, hperm, hsame⟩ := h
  rw [← signatureAt_perm hperm hn] at hs
  exact lookup_forall₂ (List.rel_reverse (signaturesOf_same hsame)) hs

theorem follows_userPhase (henv : env.KnowsAscii) {user : Client} :
    Follows upToIds (SameResponses env L) (requestUserComponentSignatures (L.dialect env) user frame targets)
      (requestUserComponentSignatures (L.dialect env) user frame targets) := by
  have hblind : Follows upToIds.blind (List.Forall₂ (SameResponse env L))
      (requestUserComponentSignatures (L.dialect env) user frame targets)
      (requestUserComponentSignatures (L.dialect env) user frame targets) :=
    follows_collect fun _ _ => follows_requestComponents henv
  exact follows_of_blind (hblind.imp fun responses _ hsame => ⟨responses, .refl _, hsame⟩)
    (onlyKinds_userPhase.unseen (by decide)) (onlyKinds_userPhase.unseen (by decide))

/-- Whatever the order of the groups is, all are asked. -/
theorem follows_orderGroups {groups : List CosignerGroup} :
    Follows upToIds.blind (fun order order' => order.Perm groups ∧ order'.Perm groups)
      ((L.dialect env).orderGroups groups) ((L.dialect env).orderGroups groups) := by
  cases L with
  | go =>
    refine follows_bind (follows_query (S := fun _ _ => True) fun _ _ _ => trivial) fun _ order _ order' _ _ _ => ?_
    exact follows_pure ⟨order.property, order'.property⟩
  | python => exact follows_pure ⟨.refl _, .refl _⟩
  | typescript => exact follows_pure ⟨.refl _, .refl _⟩

theorem follows_requestCosignerGroup (henv : env.KnowsAscii) {group : CosignerGroup} :
    Follows upToIds.blind (SameResponse env L) (requestCosignerGroup (L.dialect env) frame group)
      (requestCosignerGroup (L.dialect env) frame group) := by
  unfold requestCosignerGroup
  split
  · intro t resp t' r hrun
    cases hrun.2
  · exact follows_requestComponents henv

theorem follows_cosignerPhase (henv : env.KnowsAscii) {cosigner : CosignerOptions} :
    Follows upToIds (SameResponses env L)
      (requestCosignerComponentSignatures (L.dialect env) cosigner frame targets)
      (requestCosignerComponentSignatures (L.dialect env) cosigner frame targets) := by
  have hunseen : Emits (fun e => upToIds.see e = [])
      (requestCosignerComponentSignatures (L.dialect env) cosigner frame targets) :=
    (onlyKinds_cosignerPhase (L.lawful_dialect env)).unseen (by decide)
  refine follows_of_blind ?_ hunseen hunseen
  refine follows_lift_bind fun resolved hresolved => ⟨resolved, hresolved, ?_⟩
  refine follows_bind follows_orderGroups fun _ order _ order' _ _ horder => ?_
  exact follows_collect_perm (horder.2.trans horder.1.symm) fun _ _ => follows_requestCosignerGroup henv

/-! ### Assembly targets -/

theorem guardedAssemblyTarget_same {user user' cosigner cosigner' : List ComponentResponse}
    (hu : SameResponses env L user user') (hc : SameResponses env L cosigner cosigner')
    (hun : ((signaturesOf user).map Prod.fst).Nodup) (hcn : ((signaturesOf cosigner).map Prod.fst).Nodup)
    {target : GuardedSignTarget} {T : AssemblyTarget} (h : guardedAssemblyTarget user cosigner target = .ok T) :
    ∃ T', guardedAssemblyTarget user' cosigner' target = .ok T' ∧ SameTarget env L T T' := by
  unfold guardedAssemblyTarget at h
  split at h
  · cases h
  rename_i u hsig
  split at h
  · cases h
  rename_i c hcsig
  cases h
  obtain ⟨u', hsig', husame⟩ := hu.signatureAt hun hsig
  obtain ⟨c', hcsig', hcsame⟩ := hc.signatureAt hcn hcsig
  unfold guardedAssemblyTarget
  rw [hsig']
  dsimp only
  rw [hcsig']
  refine ⟨_, rfl, ?_, ?_⟩
  · unfold AssemblyTarget.withoutIds
    rw [husame.signature, hcsame.signature]
  · rintro ⟨haddress, hcosigned, -, hsigned, hnone, hargs, hreceipt, hbase, -⟩
    rw [hcsame.signature] at hcosigned
    rw [husame.signature] at hsigned
    exact ⟨haddress, hcosigned, hcsame.ok, hsigned, hnone, hargs, hreceipt, hbase, husame.ok⟩

theorem boundedAssemblyTarget_same {base base' : ComponentResponse} {cosigner cosigner' : List ComponentResponse}
    (hb : SameResponse env L base base') (hc : SameResponses env L cosigner cosigner')
    (hcn : ((signaturesOf cosigner).map Prod.fst).Nodup) {target : GuardedSignTarget} {T : AssemblyTarget}
    (h : boundedAssemblyTarget (L.dialect env) base cosigner target = .ok T) :
    ∃ T', boundedAssemblyTarget (L.dialect env) base' cosigner' target = .ok T' ∧ SameTarget env L T T' := by
  unfold boundedAssemblyTarget at h
  split at h
  · cases h
  rename_i component hfind
  split at h
  · cases h
  rename_i c hcsig
  cases h
  obtain ⟨c', hcsig', hcsame⟩ := hc.signatureAt hcn hcsig
  unfold boundedAssemblyTarget
  rw [← hb.components, hfind]
  dsimp only
  rw [hcsig']
  refine ⟨_, rfl, ?_, ?_⟩
  · unfold AssemblyTarget.withoutIds
    rw [hcsame.signature]
  · rintro ⟨haddress, hcosigned, -, hbase, hreceipt, hnone, hsource, hargs, -⟩
    rw [hcsame.signature] at hcosigned
    exact ⟨haddress, hcosigned, hcsame.ok, hbase, hreceipt, hnone, hsource, hargs, hb.ok⟩

end Components

/-! ### Closings -/

section Closings

variable {env : Env} {L : Language}

/-- Two closings of one group. -/
structure SameClosing (env : Env) (L : Language) (c c' : Closing) : Prop where
  user : c.user = c'.user
  cosigner : c.cosigner = c'.cosigner
  frame : c.frame = c'.frame
  targets : c.targets = c'.targets
  assemblyRequestId : c.assemblyRequestId = c'.assemblyRequestId
  verifies : c.verifies = c'.verifies
  nodup : (c.targets.map (·.targetIndex)).Nodup
  material : ∀ responses responses' material, SameResponses env L responses responses' →
    ((signaturesOf responses).map Prod.fst).Nodup → c.material responses = .ok material →
      ∃ material', c'.material responses' = .ok material' ∧
        List.Forall₂ (SameTarget env L) material.1 material'.1 ∧ material.2 = material'.2

/-- **The same closing ends the same way.** -/
theorem follows_closing (henv : env.KnowsAscii) {c c' : Closing} (h : SameClosing env L c c') :
    Follows upToIds (fun out out' => out.2.signedGroup = out'.2.signedGroup)
      (cosignAndAssemble (L.dialect env) c) (cosignAndAssemble (L.dialect env) c') := by
  have hphase : Follows upToIds (SameResponses env L)
      (requestCosignerComponentSignatures (L.dialect env) c.cosigner c.frame c.targets)
      (requestCosignerComponentSignatures (L.dialect env) c'.cosigner c'.frame c'.targets) := by
    rw [← h.cosigner, ← h.frame, ← h.targets]
    exact follows_cosignerPhase henv
  refine follows_bind hphase fun _ responses _ responses' hrun _ hresponses => ?_
  have hnodup := cosignerPhase_nodup (L.lawful_dialect env) h.nodup hrun
  refine follows_lift_bind fun material hmaterial => ?_
  obtain ⟨material', hmaterial', htargets, hitems⟩ := h.material _ _ _ hresponses hnodup hmaterial
  refine ⟨material', hmaterial', ?_⟩
  have hrequest : SameRequest env L (c.request material) (c'.request material') :=
    ⟨h.assemblyRequestId, congrArg ComponentFrame.groupBytesHex h.frame, htargets, hitems⟩
  rw [← h.user]
  refine follows_bind (follows_mapError (follows_requestAssemble henv hrequest)) fun _ resp _ resp' _ _ hgroup => ?_
  refine follows_lift_bind fun _ hverified => ⟨(), ?_, follows_pure hgroup⟩
  rw [← h.verifies, ← h.frame, ← hgroup]
  exact hverified

end Closings

/-! ### Permuted targets -/

section Permuted

variable {env : Env} {L : Language} {d : Dialect} {user : Client}

theorem sortTargets_perm {targets targets' : List GuardedSignTarget} (hperm : targets'.Perm targets)
    (hn : (targets.map (·.targetIndex)).Nodup) : sortTargets targets' = sortTargets targets := by
  have htotal : Std.Total fun a b : GuardedSignTarget => a.targetIndex ≤ b.targetIndex := ⟨fun a b => le_total _ _⟩
  have htrans : IsTrans GuardedSignTarget fun a b => a.targetIndex ≤ b.targetIndex := ⟨fun _ _ _ => le_trans⟩
  refine insertionSort_perm hperm fun a ha b hb hab hba => ?_
  exact List.inj_on_of_nodup_map hn ha hb (le_antisymm hab hba)

theorem sortIndices_eq_of_perm {indices indices' : List ℤ} (hperm : indices'.Perm indices) :
    sortIndices indices' = sortIndices indices :=
  insertionSort_perm hperm fun _ _ _ _ => le_antisymm

/-- The options with the two lists of targets in another order. -/
def GuardedSignOptions.reordered (opts : GuardedSignOptions) (targets : List GuardedSignTarget)
    (primaries : List GuardedPrimarySignTarget) : GuardedSignOptions :=
  { opts with targets := targets, primaryTargets := primaries }

variable {opts : GuardedSignOptions} {targets' : List GuardedSignTarget}
  {primaries' : List GuardedPrimarySignTarget}

theorem precheck_perm (hperm : targets'.Perm opts.targets) (h : (L.dialect env).precheck opts = .ok ()) :
    (L.dialect env).precheck (opts.reordered targets' primaries') = .ok () := by
  have hempty : targets' = [] ↔ opts.targets = [] := by
    constructor
    · rintro rfl
      exact hperm.symm.eq_nil
    · intro hnil
      rw [hnil] at hperm
      exact hperm.eq_nil
  cases L with
  | go =>
    simp only [Language.dialect, Go.dialect, noTargets, GuardedSignOptions.reordered, seq_eq_ok, failIf_ok, hempty] at h ⊢
    exact h
  | python =>
    simp only [Language.dialect, Python.dialect, noTargets, GuardedSignOptions.reordered, seq_eq_ok, failIf_ok, hempty]
      at h ⊢
    exact h
  | typescript =>
    simp only [Language.dialect, TypeScript.dialect, noTargets, GuardedSignOptions.reordered, seq_eq_ok, failIf_ok,
      hempty] at h ⊢
    exact h

theorem guardedPrelude_perm (hperm : targets'.Perm opts.targets) {targets : List GuardedSignTarget}
    (h : guardedPrelude (L.dialect env) opts = .ok (user, targets)) :
    guardedPrelude (L.dialect env) (opts.reordered targets' primaries') = .ok (user, targets) := by
  obtain ⟨-, htargets, hn⟩ := guardedPrelude_ok h
  have hnodup : (opts.targets.map (·.targetIndex)).Nodup := by
    rw [htargets] at hn
    exact ((List.perm_insertionSort _ _).map _).nodup_iff.mp hn
  have hsorted : sortTargets targets' = sortTargets opts.targets := sortTargets_perm hperm hnodup
  simp only [guardedPrelude, bind_eq_ok, pure_eq_ok, Prod.mk.injEq] at h ⊢
  obtain ⟨_, huser, _, hpre, claimed, hclaim, hout⟩ := h
  refine ⟨_, huser, (), precheck_perm hperm hpre, claimed, ?_, ?_⟩
  · exact hsorted.symm ▸ hclaim
  · exact hsorted.symm ▸ hout

/-- What the primary side of a run asks of a target. -/
theorem checkPrimaryTarget_exact {n : ℕ} {guarded claimed : List ℤ} {t : GuardedPrimarySignTarget} :
    checkPrimaryTarget d n guarded claimed t = .ok () ↔
      (((0 ≤ t.targetIndex ∧ t.targetIndex < n) ∧ t.targetIndex ∉ guarded) ∧ t.targetIndex ∉ claimed) ∧
        t.authAddress ≠ "" := by
  simp only [checkPrimaryTarget, seq_eq_ok, failIf_ok, not_or, not_lt, not_le, ne_eq]
  tauto

variable {group : List String} {targets : List GuardedSignTarget} {primaries : List GuardedPrimarySignTarget}
  {passthrough : List AssemblyPassthroughItem} {requests : List SignRequest}

theorem claimPrimaries_ok {n : ℕ} {guarded out : List ℤ} :
    claimAll (·.targetIndex) (fun _ => checkPrimaryTarget d n guarded) 0 [] primaries = .ok out ↔
      out = (primaries.map (·.targetIndex)).reverse ++ [] ∧
        (∀ i : ℤ, i ∈ primaries.map (·.targetIndex) → ((0 ≤ i ∧ i < n) ∧ i ∉ guarded) ∧ i ∉ ([] : List ℤ)) ∧
        (primaries.map (·.targetIndex)).Nodup ∧ ∀ (j : ℕ) t, primaries[j]? = some t → t.authAddress ≠ "" :=
  claimAll_ok (R := fun i : ℤ => (0 ≤ i ∧ i < n) ∧ i ∉ guarded)
    (E := fun _ (t : GuardedPrimarySignTarget) => t.authAddress ≠ "") fun _ _ _ => checkPrimaryTarget_exact

theorem primaryEntries_nodup (h : primaryEntries d group targets primaries passthrough = .ok requests) :
    (primaries.map (·.targetIndex)).Nodup := by
  simp only [primaryEntries, bind_eq_ok] at h
  obtain ⟨claimed, hclaim, -⟩ := h
  exact (claimPrimaries_ok.mp hclaim).2.2.1

/-- The entries at `/sign` do not depend on the order of the primary targets. -/
theorem primaryEntries_perm (hperm : primaries'.Perm primaries)
    (h : primaryEntries d group targets primaries passthrough = .ok requests) :
    primaryEntries d group targets primaries' passthrough = .ok requests := by
  have hn := primaryEntries_nodup h
  have hindices : (primaries'.map (·.targetIndex)).Perm (primaries.map (·.targetIndex)) := hperm.map _
  have hentry : primaryEntry d targets primaries' passthrough = primaryEntry d targets primaries passthrough := by
    funext i txnHex
    unfold primaryEntry
    rw [find?_perm hperm hn]
  simp only [primaryEntries, bind_eq_ok] at h ⊢
  obtain ⟨claimed, hclaim, items, hitems, hrequests⟩ := h
  obtain ⟨hclaimed, hrange, -, haddress⟩ := claimPrimaries_ok.mp hclaim
  refine ⟨(primaries'.map (·.targetIndex)).reverse ++ [], ?_, items, ?_, hentry ▸ hrequests⟩
  · refine claimPrimaries_ok.mpr ⟨rfl, ?_, hindices.nodup_iff.mpr hn, ?_⟩
    · exact fun i hi => hrange i (hindices.mem_iff.mp hi)
    · intro j x hj
      have hx : x ∈ primaries := hperm.mem_iff.mp (List.mem_of_getElem? hj)
      obtain ⟨k, hk⟩ := List.mem_iff_getElem?.mp hx
      exact haddress k x hk
  · -- the items are only compared with the set of primary indices
    have hmem : ∀ i, i ∈ (primaries'.map (·.targetIndex)).reverse ++ [] ↔ i ∈ claimed := by
      intro i
      rw [hclaimed, List.append_nil, List.append_nil, List.mem_reverse, List.mem_reverse]
      exact hindices.mem_iff
    refine claimAll_imp hitems fun _ _ item _ hcheck => ?_
    simp only [checkPassthroughItem, hmem]
    exact hcheck

theorem forwardAll_perm {verifies : Bool} {signed : List String} (hperm : primaries'.Perm primaries) :
    forwardAll d verifies group signed primaries' = forwardAll d verifies group signed primaries := by
  unfold forwardAll
  rw [sortIndices_eq_of_perm (hperm.map _)]

theorem frame_perm (hperm : primaries'.Perm opts.primaryTargets)
    (hn : (opts.primaryTargets.map (·.targetIndex)).Nodup) :
    (opts.reordered targets' primaries').frame targets = opts.frame targets := by
  have hinfo : appCallInfoAt primaries' targets = appCallInfoAt opts.primaryTargets targets := by
    funext i
    have hperm' : primaries'.reverse.Perm opts.primaryTargets.reverse :=
      (List.reverse_perm _).trans (hperm.trans (List.reverse_perm _).symm)
    have hn' : (opts.primaryTargets.reverse.map (·.targetIndex)).Nodup := by
      rw [List.map_reverse, List.nodup_reverse]
      exact hn
    unfold appCallInfoAt
    rw [find?_perm hperm' hn']
  unfold GuardedSignOptions.frame GuardedSignOptions.reordered
  rw [hinfo]

theorem guardedPrimary_nodup {t : Trace signer} {out : Option GroupSignResponse × List AssemblyPassthroughItem}
    (h : Runs (guardedPrimary d opts user targets) t (.ok out)) :
    (opts.primaryTargets.map (·.targetIndex)).Nodup := by
  obtain ⟨items, -, h⟩ := runs_lift_bind_ok.mp h
  split at h
  · rename_i hnil
    rw [hnil]
    exact List.nodup_nil
  · obtain ⟨_, _, _, -, hrun, -⟩ := runs_bind_ok.mp h
    obtain ⟨requests, hrequests, -⟩ := runs_lift_bind_ok.mp hrun
    exact primaryEntries_nodup hrequests

/-- A guarded run that succeeds names no primary target twice. -/
theorem guarded_primaries_nodup {t : Trace signer} {result : GuardedSignResult}
    (h : Runs (signGuardedGroup d opts) t (.ok result)) : (opts.primaryTargets.map (·.targetIndex)).Nodup := by
  obtain ⟨⟨user, targets⟩, -, h⟩ := runs_lift_bind_ok.mp h
  obtain ⟨_, _, _, -, -, h⟩ := runs_bind_ok.mp h
  obtain ⟨_, _, _, -, hprimary, -⟩ := runs_bind_ok.mp h
  exact guardedPrimary_nodup hprimary

theorem follows_guardedPrimary (henv : env.KnowsAscii) (hperm : primaries'.Perm opts.primaryTargets) :
    Follows upToIds (fun out out' => out.2 = out'.2) (guardedPrimary (L.dialect env) opts user targets)
      (guardedPrimary (L.dialect env) (opts.reordered targets' primaries') user targets) := by
  refine follows_of_blind ?_ (onlyKinds_guardedPrimary.unseen (by decide)) (onlyKinds_guardedPrimary.unseen (by decide))
  refine follows_lift_bind fun items hitems => ⟨items, hitems, ?_⟩
  by_cases hnil : opts.primaryTargets = []
  · have hnil' : (opts.reordered targets' primaries').primaryTargets = [] := by
      rw [hnil] at hperm
      exact hperm.eq_nil
    rw [if_pos hnil, if_pos hnil']
    exact follows_pure rfl
  · have hnil' : ¬ (opts.reordered targets' primaries').primaryTargets = [] := by
      intro hnil'
      have hperm : List.Perm [] opts.primaryTargets := hnil' ▸ hperm
      exact hnil hperm.symm.eq_nil
    rw [if_neg hnil, if_neg hnil']
    have hrequest : Follows upToIds.blind Eq
        (requestPrimaryGuardedPassthrough (L.dialect env) user opts.groupBytesHex targets opts.primaryTargets items)
        (requestPrimaryGuardedPassthrough (L.dialect env) user opts.groupBytesHex targets primaries' items) := by
      refine follows_lift_bind fun requests hrequests => ⟨requests, primaryEntries_perm hperm hrequests, ?_⟩
      refine follows_bind (follows_signGroup henv) fun _ response _ response' _ _ heq => ?_
      subst heq
      refine follows_lift_bind fun forwarded hforwarded => ⟨forwarded, ?_, follows_pure rfl⟩
      rw [forwardAll_perm hperm]
      exact hforwarded
    refine follows_bind hrequest fun _ out _ out' _ _ heq => ?_
    subst heq
    exact follows_pure rfl

theorem guarded_follows_of_nodup (henv : env.KnowsAscii) (htargets : targets'.Perm opts.targets)
    (hprimaries : primaries'.Perm opts.primaryTargets) (hn : (opts.primaryTargets.map (·.targetIndex)).Nodup) :
    Follows upToIds (fun result result' => result.signedGroup = result'.signedGroup)
      (signGuardedGroup (L.dialect env) opts)
      (signGuardedGroup (L.dialect env) (opts.reordered targets' primaries')) := by
  refine follows_lift_bind fun p hprelude => ⟨p, guardedPrelude_perm htargets hprelude, ?_⟩
  obtain ⟨user, targets⟩ := p
  obtain ⟨-, -, hnodup⟩ := guardedPrelude_ok hprelude
  have hframe : (opts.reordered targets' primaries').frame targets = opts.frame targets := frame_perm hprimaries hn
  dsimp only
  rw [hframe]
  refine follows_bind (follows_userPhase henv) fun _ responses _ responses' huser _ hresponses => ?_
  have hunodup := userPhase_nodup (L.lawful_dialect env) hnodup huser
  refine follows_bind (follows_guardedPrimary henv hprimaries) fun _ out _ out' _ _ hitems => ?_
  have hclosing : SameClosing env L
      (guardedClosing (L.dialect env) opts user targets responses out.2)
      (guardedClosing (L.dialect env) (opts.reordered targets' primaries') user targets responses' out'.2) := by
    refine ⟨rfl, rfl, hframe.symm, rfl, rfl, rfl, hnodup, ?_⟩
    intro cosigned cosigned' material hcosigned hcnodup hmaterial
    obtain ⟨assembled, hassembled, hout⟩ := bind_eq_ok.mp hmaterial
    cases hout
    obtain ⟨assembled', hassembled', hsame⟩ := mapEach_sim
      (fun _ _ _ => guardedAssemblyTarget_same hresponses hcosigned hunodup hcnodup) hassembled
    exact ⟨(assembled', out'.2), bind_eq_ok.mpr ⟨assembled', hassembled', rfl⟩, hsame, hitems⟩
  exact follows_bind (follows_closing henv hclosing) fun _ _ _ _ _ _ hgroup => follows_pure hgroup

/-- **The guarded choreography does not depend on the order of its targets.** -/
theorem guarded_follows (henv : env.KnowsAscii) (htargets : targets'.Perm opts.targets)
    (hprimaries : primaries'.Perm opts.primaryTargets) :
    Follows upToIds (fun result result' => result.signedGroup = result'.signedGroup)
      (signGuardedGroup (L.dialect env) opts)
      (signGuardedGroup (L.dialect env) (opts.reordered targets' primaries')) := by
  intro t result t' r hrun
  exact guarded_follows_of_nodup henv htargets hprimaries (guarded_primaries_nodup hrun) t result t' r hrun

end Permuted

/-! ### The bounded choreography -/

section Bounded

variable {env : Env} {L : Language} {user : Client} {opts : PreparedGuardedGroupOptions}

theorem follows_lookupKey {wrap : SdkError → SdkError} {item : PreparedTransaction} :
    Follows upToIds.blind Eq (lookupKey user wrap item) (lookupKey user wrap item) := by
  unfold lookupKey
  split
  · refine follows_bind (follows_query fun a b h => h rfl rfl) fun _ found _ found' _ _ hsame => ?_
    refine follows_lift fun key hkey => ⟨key, ?_, rfl⟩
    exact mapErr_ok.mpr ((hsame key).mp (mapErr_ok.mp hkey))
  · exact follows_pure rfl

theorem follows_boundedSlot {rules : SlotRules} {i : ℕ} {item : PreparedTransaction} :
    Follows upToIds.blind Eq (boundedSlot rules user i item) (boundedSlot rules user i item) := by
  refine follows_lift_bind fun txn htxn => ⟨txn, htxn, ?_⟩
  refine follows_bind follows_lookupKey fun _ found _ found' _ _ hsame => ?_
  subst hsame
  exact follows_lift fun slot hslot => ⟨slot, hslot, rfl⟩

theorem follows_planBounded :
    Follows upToIds Eq (planBounded (L.dialect env) opts) (planBounded (L.dialect env) opts) := by
  refine follows_of_blind ?_ (onlyKinds_planBounded.unseen (by decide)) (onlyKinds_planBounded.unseen (by decide))
  refine follows_lift_bind fun user huser => ⟨user, huser, ?_⟩
  refine follows_lift_bind fun _ hempty => ⟨(), hempty, ?_⟩
  refine follows_bind (follows_collect fun _ _ => follows_boundedSlot) fun _ slots _ slots' _ _ hslots => ?_
  rw [List.forall₂_eq_eq_eq] at hslots
  subst hslots
  refine follows_lift_bind fun _ htargets => ⟨(), htargets, ?_⟩
  refine follows_bind (follows_mapError follows_planRequests) fun _ plan _ plan' _ _ hplan => ?_
  subst hplan
  exact follows_lift_bind fun planned hplanned => ⟨planned, hplanned, follows_pure rfl⟩

theorem follows_boundedPrimary (henv : env.KnowsAscii) {group : List String} {slots : List Slot} :
    Follows upToIds Eq (requestBoundedPrimaryPassthrough (L.dialect env) user group slots)
      (requestBoundedPrimaryPassthrough (L.dialect env) user group slots) := by
  refine follows_of_blind ?_ (onlyKinds_boundedPrimary.unseen (by decide)) (onlyKinds_boundedPrimary.unseen (by decide))
  unfold requestBoundedPrimaryPassthrough
  dsimp only
  split
  · exact follows_pure rfl
  · refine follows_bind (follows_mapError (follows_signGroup henv)) fun _ response _ response' _ _ hsame => ?_
    subst hsame
    exact follows_lift_bind fun items hitems => ⟨items, hitems, follows_pure rfl⟩

/-- **The bounded choreography does not depend on the order of its requests.** -/
theorem bounded_follows (henv : env.KnowsAscii) :
    Follows upToIds (fun result result' => result.signedGroup = result'.signedGroup)
      (signPreparedBoundedCosignerGroup (L.dialect env) opts)
      (signPreparedBoundedCosignerGroup (L.dialect env) opts) := by
  refine follows_bind follows_planBounded fun _ p _ p' hplan _ hsame => ?_
  subst hsame
  obtain ⟨user, slots, group, planned⟩ := p
  obtain ⟨keys, plan, -, hplanned⟩ := planBounded_ok (L.lawful_dialect env) hplan
  have hnodup := hplanned.sorted.targets_nodup (sorts_sortBounded _)
  have hbase : Follows upToIds (SameResponse env L)
      (requestComponents (L.dialect env).calls user (baseComponentRequest group slots))
      (requestComponents (L.dialect env).calls user (baseComponentRequest group slots)) :=
    follows_of_blind (follows_requestComponents henv) (onlyKinds_base.unseen (by decide))
      (onlyKinds_base.unseen (by decide))
  refine follows_bind (follows_mapError hbase) fun _ base _ base' _ _ hbases => ?_
  refine follows_lift_bind fun _ hchecked => ⟨(), ?_, ?_⟩
  · rw [← hbases.components]
    exact hchecked
  refine follows_bind (follows_boundedPrimary henv) fun _ out _ out' _ _ hitems => ?_
  subst hitems
  have hclosing : SameClosing env L
      (boundedClosing (L.dialect env) opts user slots group planned base out.2)
      (boundedClosing (L.dialect env) opts user slots group planned base' out.2) := by
    refine ⟨rfl, rfl, rfl, rfl, rfl, rfl, hnodup, ?_⟩
    intro cosigned cosigned' material hcosigned hcnodup hmaterial
    obtain ⟨dummies, hdummies, hmaterial⟩ := bind_eq_ok.mp hmaterial
    obtain ⟨assembled, hassembled, hout⟩ := bind_eq_ok.mp hmaterial
    cases hout
    obtain ⟨assembled', hassembled', hsame⟩ := mapEach_sim
      (fun _ _ _ => boundedAssemblyTarget_same hbases hcosigned hcnodup) hassembled
    exact ⟨(assembled', out.2 ++ dummies),
      bind_eq_ok.mpr ⟨dummies, hdummies, bind_eq_ok.mpr ⟨assembled', hassembled', rfl⟩⟩, hsame, rfl⟩
  exact follows_bind (follows_closing henv hclosing) fun _ _ _ _ _ _ hgroup => follows_pure hgroup

end Bounded

/-! ### Go's maps

`userGroups` and `primaryByIndex` are maps in Go: their keys come in some order
and are sorted after. -/

/-- The order in which Go ranges over the keys of a map, for the two maps with
keys of their own. -/
structure Go.MapOrder where
  accounts : List String → List String
  accounts_perm : ∀ keys, (accounts keys).Perm keys
  indices : List ℤ → List ℤ
  indices_perm : ∀ keys, (indices keys).Perm keys

/-- `userGroups`: the indices of each account. -/
def Go.userGroups (targets : List GuardedSignTarget) : List (String × List ℤ) :=
  (groupBy (·.guardedAccount) targets).map fun p => (p.1, p.2.map (·.targetIndex))

/-- `accounts`, sorted. -/
def Go.sortedAccounts (order : MapOrder) (targets : List GuardedSignTarget) : List String :=
  (order.accounts ((userGroups targets).map Prod.fst)).insertionSort fun a b => codePointLe a b = true

/-- `requestUserComponentSignatures`. -/
def Go.requestUserComponentSignatures (env : Env) (order : MapOrder) (user : Client) (frame : ComponentFrame)
    (targets : List GuardedSignTarget) : Flow (List ComponentResponse) :=
  collect (fun account => requestComponents (calls env) user (componentRequestForIndices (dialect env) frame .user account
    (sortIndices (((userGroups targets).lookup account).getD [])))) (sortedAccounts order targets)

/-- The loop over `primaryByIndex`, and the sort after it. -/
def Go.forwardAll (env : Env) (order : MapOrder) (group signed : List String)
    (primaries : List GuardedPrimarySignTarget) : Except SdkError (List AssemblyPassthroughItem) := do
  let items ← mapEach (fun _ => forwardPrimary (dialect env) true group signed) 0
    (order.indices (primaries.map (·.targetIndex)))
  pure (items.insertionSort fun a b => a.targetIndex ≤ b.targetIndex)

/-- `requestPrimaryGuardedPassthrough`. -/
def Go.requestPrimaryGuardedPassthrough (env : Env) (order : MapOrder) (user : Client) (group : List String)
    (targets : List GuardedSignTarget) (primaries : List GuardedPrimarySignTarget)
    (passthrough : List AssemblyPassthroughItem) : Flow (GroupSignResponse × List AssemblyPassthroughItem) := do
  let requests ← liftM (primaryEntries (dialect env) group targets primaries passthrough)
  let response ← signGroup (calls env) user requests
  let items ← liftM (forwardAll env order group response.signed primaries)
  pure (response, items)

/-- The items of the caller, and those of the primary signer if there are
primary positions. -/
def Go.guardedPrimary (env : Env) (order : MapOrder) (opts : GuardedSignOptions) (user : Client)
    (targets : List GuardedSignTarget) : Flow (Option GroupSignResponse × List AssemblyPassthroughItem) :=
  if opts.primaryTargets = [] then
    pure (none, opts.passthrough)
  else do
    let (response, items) ← requestPrimaryGuardedPassthrough env order user opts.groupBytesHex targets
      opts.primaryTargets opts.passthrough
    pure (some response, opts.passthrough ++ items)

/-- `SignGuardedGroupWithContext`. -/
def Go.signGuardedGroup (env : Env) (order : MapOrder) (opts : GuardedSignOptions) : Flow GuardedSignResult := do
  let (user, targets) ← liftM (guardedPrelude (dialect env) opts)
  let userResponses ← requestUserComponentSignatures env order user (opts.frame targets) targets
  let (primaryResponse, passthrough) ← guardedPrimary env order opts user targets
  let (cosignerResponses, assemblyResponse) ←
    cosignAndAssemble (dialect env) (guardedClosing (dialect env) opts user targets userResponses passthrough)
  pure
    { signedGroup := assemblyResponse.signedGroup
      userComponentResponses := userResponses
      cosignerComponentResponses := cosignerResponses
      primarySignResponse := primaryResponse
      assemblyResponse := some assemblyResponse }

/-- `requestBoundedPrimaryPassthrough`. -/
def Go.requestBoundedPrimaryPassthrough (env : Env) (order : MapOrder) (user : Client) (group : List String)
    (slots : List Slot) : Flow (Option GroupSignResponse × List AssemblyPassthroughItem) := do
  let primaries := slots.filterMap Slot.primary?
  if primaries = [] then
    pure (none, [])
  else
    let response ← (signGroup (calls env) user
      (group.zipIdx.map fun p => boundedEntry (dialect env) slots p.2 p.1)).mapError
      ((dialect env).context "signing non-bounded group positions failed: ")
    let items ← liftM (forwardAll env order group response.signed primaries)
    pure (some response, items)

/-- `SignPreparedBoundedCosignerGroup`. -/
def Go.signPreparedBoundedCosignerGroup (env : Env) (order : MapOrder) (opts : PreparedGuardedGroupOptions) :
    Flow GuardedSignResult := do
  let (user, slots, group, planned) ← planBounded (dialect env) opts
  let base ← (requestComponents (calls env) user (baseComponentRequest group slots)).mapError
    ((dialect env).context "bounded base component signing failed: ")
  liftM (checkBaseComponents (slots.filterMap Slot.target?) base.components)
  let (primaryResponse, items) ← requestBoundedPrimaryPassthrough env order user group slots
  let (cosignerResponses, assemblyResponse) ←
    cosignAndAssemble (dialect env) (boundedClosing (dialect env) opts user slots group planned base items)
  pure
    { signedGroup := assemblyResponse.signedGroup
      cosignerComponentResponses := cosignerResponses
      primarySignResponse := primaryResponse
      boundedComponentResponse := some base
      boundedAssemblyResponse := some assemblyResponse }

section GoMaps

variable {env : Env} {order : Go.MapOrder} {user : Client} {frame : ComponentFrame}
  {targets : List GuardedSignTarget}

theorem codePointLe_iff {a b : String} : codePointLe a b = true ↔ a ≤ b := by
  unfold codePointLe
  rw [Bool.not_eq_true', decide_eq_false_iff_not]
  exact Iff.rfl

theorem total_codePointLe : Std.Total fun a b : String => codePointLe a b = true := by
  refine ⟨fun a b => ?_⟩
  rw [codePointLe_iff, codePointLe_iff]
  exact String.le_total a b

theorem trans_codePointLe : IsTrans String fun a b => codePointLe a b = true := by
  refine ⟨fun a b c hab hbc => ?_⟩
  rw [codePointLe_iff] at hab hbc ⊢
  exact String.le_trans hab hbc

/-- The entry of an account in the map, with its indices sorted. -/
def Go.accountEntry (targets : List GuardedSignTarget) (account : String) : String × List ℤ :=
  (account, sortIndices (((userGroups targets).lookup account).getD []))

theorem accountEntry_keys :
    ((Go.userGroups targets).map Prod.fst).map (Go.accountEntry targets) =
      (groupBy (·.guardedAccount) targets).map fun p => (p.1, sortIndices (p.2.map (·.targetIndex))) := by
  have hn : ((Go.userGroups targets).map Prod.fst).Nodup := by
    rw [Go.userGroups, List.map_map]
    exact keys_groupBy_nodup _ _
  rw [Go.userGroups, List.map_map, List.map_map]
  refine List.map_congr_left fun p hp => ?_
  have hlookup : (Go.userGroups targets).lookup p.1 = some (p.2.map (·.targetIndex)) :=
    lookup_of_mem hn (List.mem_map_of_mem (f := fun p => (p.1, p.2.map (·.targetIndex))) hp)
  change Go.accountEntry targets p.1 = _
  rw [Go.accountEntry, hlookup, Option.getD_some]

/-- The accounts with their indices, whatever the order of the map. -/
theorem sortedAccounts_entries :
    (Go.sortedAccounts order targets).map (Go.accountEntry targets) = userGroups (Go.dialect env) targets := by
  have htotal := total_codePointLe
  have htrans := trans_codePointLe
  have htotal' : Std.Total fun a b : String × List ℤ => codePointLe a.1 b.1 = true := ⟨fun a b => htotal.total a.1 b.1⟩
  have htrans' : IsTrans (String × List ℤ) fun a b => codePointLe a.1 b.1 = true :=
    ⟨fun a b c => htrans.trans a.1 b.1 c.1⟩
  have hgroups : userGroups (Go.dialect env) targets = (((Go.userGroups targets).map Prod.fst).map
      (Go.accountEntry targets)).insertionSort fun a b => codePointLe a.1 b.1 = true := by
    rw [accountEntry_keys]
    rfl
  rw [hgroups]
  have hsorted := List.pairwise_insertionSort (fun a b : String => codePointLe a b = true)
    (order.accounts ((Go.userGroups targets).map Prod.fst))
  have hmapped : ((Go.sortedAccounts order targets).map (Go.accountEntry targets)).Pairwise
      fun a b => codePointLe a.1 b.1 = true := List.pairwise_map.mpr hsorted
  have hgrouped := List.pairwise_insertionSort (fun a b : String × List ℤ => codePointLe a.1 b.1 = true)
    (((Go.userGroups targets).map Prod.fst).map (Go.accountEntry targets))
  refine List.Perm.eq_of_pairwise (fun a b ha hb hab hba => ?_) hmapped hgrouped ?_
  · -- an entry is that of its account
    obtain ⟨x, -, rfl⟩ := List.mem_map.mp ha
    rw [List.mem_insertionSort] at hb
    obtain ⟨y, -, rfl⟩ := List.mem_map.mp hb
    have hxy : x = y := String.le_antisymm (codePointLe_iff.mp hab) (codePointLe_iff.mp hba)
    rw [hxy]
  · have hperm := (List.perm_insertionSort (fun a b : String => codePointLe a b = true) _).trans
      (order.accounts_perm ((Go.userGroups targets).map Prod.fst))
    exact (hperm.map (Go.accountEntry targets)).trans (List.perm_insertionSort _ _).symm

theorem Go.requestUserComponentSignatures_eq :
    Go.requestUserComponentSignatures env order user frame targets =
      AplaneSdk.requestUserComponentSignatures (dialect env) user frame targets := by
  unfold AplaneSdk.requestUserComponentSignatures
  rw [← @sortedAccounts_entries env order targets, collect_map]
  rfl

/-- A loop over indices and a sort of what it found is the loop over the sorted indices. -/
theorem forwarded_sorted {d : Dialect} {verifies : Bool} {group signed : List String} {indices : List ℤ}
    {items : List AssemblyPassthroughItem}
    (h : List.Forall₂ (fun i item => forwardPrimary d verifies group signed i = .ok item) indices items) :
    List.Forall₂ (fun i item => forwardPrimary d verifies group signed i = .ok item) (sortIndices indices)
      (items.insertionSort fun a b => a.targetIndex ≤ b.targetIndex) := by
  have hindex : ∀ i item, forwardPrimary d verifies group signed i = .ok item → item.targetIndex = i := by
    intro i item hitem
    simp only [forwardPrimary, seq_eq_ok, pure_eq_ok] at hitem
    obtain ⟨-, -, rfl⟩ := hitem
    rfl
  have htotal : Std.Total fun a b : AssemblyPassthroughItem => a.targetIndex ≤ b.targetIndex := ⟨fun _ _ => le_total _ _⟩
  have htrans : IsTrans AssemblyPassthroughItem fun a b => a.targetIndex ≤ b.targetIndex := ⟨fun _ _ _ => le_trans⟩
  obtain ⟨sorted, hsorted, hperm⟩ := List.perm_comp_forall₂ (sortIndices_perm indices) h
  have hmap : sorted.map (·.targetIndex) = sortIndices indices := by
    rw [← List.forall₂_eq_eq_eq, List.forall₂_map_left_iff]
    exact hsorted.flip.imp fun item i hitem => hindex i item hitem
  have hpairwise : sorted.Pairwise fun a b => a.targetIndex ≤ b.targetIndex := by
    rw [← List.pairwise_map, hmap]
    exact List.pairwise_insertionSort _ _
  have heq : sorted = items.insertionSort fun a b => a.targetIndex ≤ b.targetIndex := by
    refine List.Perm.eq_of_pairwise (fun a b ha hb hab hba => ?_) hpairwise (List.pairwise_insertionSort _ _)
      (hperm.trans (List.perm_insertionSort _ _).symm)
    -- two items of one index are the same item
    have hitem : ∀ x ∈ sorted, forwardPrimary d verifies group signed x.targetIndex = .ok x := by
      intro x hx
      obtain ⟨k, hk, rfl⟩ := List.getElem_of_mem hx
      have hx := (List.forall₂_iff_get.mp hsorted).2 k (hsorted.length_eq ▸ hk) hk
      rw [List.get_eq_getElem, List.get_eq_getElem] at hx
      rw [hindex _ _ hx]
      exact hx
    have hb' : b ∈ sorted := hperm.mem_iff.mpr ((List.mem_insertionSort _).mp hb)
    have hx := hitem a ha
    rw [le_antisymm hab hba, hitem b hb'] at hx
    exact (Except.ok.inj hx).symm
  rw [← heq]
  exact hsorted

/-- The items of the primary signer, whatever the order of the map. -/
theorem Go.forwardAll_ok {group signed : List String} {primaries : List GuardedPrimarySignTarget}
    {items : List AssemblyPassthroughItem} :
    Go.forwardAll env order group signed primaries = .ok items ↔
      AplaneSdk.forwardAll (dialect env) true group signed primaries = .ok items := by
  have hindices := sortIndices_eq_of_perm (order.indices_perm (primaries.map (·.targetIndex)))
  unfold Go.forwardAll AplaneSdk.forwardAll
  constructor
  · intro h
    obtain ⟨found, hfound, hout⟩ := bind_eq_ok.mp h
    cases hout
    have hsorted := forwarded_sorted (mapEach_forall₂.mp hfound)
    rw [hindices] at hsorted
    exact mapEach_forall₂.mpr hsorted
  · intro h
    have hperm := (order.indices_perm (primaries.map (·.targetIndex))).trans (sortIndices_perm _).symm
    obtain ⟨found, hfound, -⟩ := List.perm_comp_forall₂ hperm (mapEach_forall₂.mp h)
    have hsorted := forwarded_sorted hfound
    rw [hindices] at hsorted
    refine bind_eq_ok.mpr ⟨found, mapEach_forall₂.mpr hfound, ?_⟩
    have heq := (mapEach_forall₂.mpr hsorted).symm.trans h
    rw [Except.ok.inj heq]
    rfl

theorem Go.sameRuns_primary {group : List String} {primaries : List GuardedPrimarySignTarget}
    {passthrough : List AssemblyPassthroughItem} :
    SameButErrors (AplaneSdk.requestPrimaryGuardedPassthrough (dialect env) user group targets primaries passthrough)
      (Go.requestPrimaryGuardedPassthrough env order user group targets primaries passthrough) :=
  .bind (.refl _) fun _ => .bind (.refl _) fun _ => .bind (.lift fun _ => Go.forwardAll_ok.symm) fun _ => .refl _

/-- The order of the maps only selects an error. -/
theorem Go.sameRuns_guarded {opts : GuardedSignOptions} :
    SameButErrors (AplaneSdk.signGuardedGroup (dialect env) opts) (Go.signGuardedGroup env order opts) := by
  refine .bind (.refl _) fun ⟨user, targets⟩ => ?_
  dsimp only
  rw [Go.requestUserComponentSignatures_eq]
  refine .bind (.refl _) fun responses => .bind ?_ fun _ => .refl _
  have hitems : mapEach (fun _ => (dialect env).normalizePassthrough) 0 opts.passthrough = .ok opts.passthrough :=
    mapEach_forall₂.mpr (List.forall₂_same.mpr fun _ _ => rfl)
  unfold AplaneSdk.guardedPrimary Go.guardedPrimary
  rw [hitems]
  change SameButErrors (if opts.primaryTargets = [] then _ else _) _
  split
  · exact .refl _
  · exact .bind Go.sameRuns_primary fun _ => .refl _

theorem Go.sameRuns_bounded {opts : PreparedGuardedGroupOptions} :
    SameButErrors (AplaneSdk.signPreparedBoundedCosignerGroup (dialect env) opts)
      (Go.signPreparedBoundedCosignerGroup env order opts) := by
  refine .bind (.refl _) fun ⟨user, slots, group, planned⟩ => .bind (.refl _) fun base => .bind (.refl _) fun _ => ?_
  refine .bind ?_ fun _ => .refl _
  unfold AplaneSdk.requestBoundedPrimaryPassthrough Go.requestBoundedPrimaryPassthrough
  dsimp only
  split
  · exact .refl _
  · exact .bind (.refl _) fun _ => .bind (.lift fun _ => Go.forwardAll_ok.symm) fun _ => .refl _

end GoMaps

/-! ### Main result -/

/-- Two runs fail together, or they had the same assembled, up to the ids of
requests, and return the same group. -/
structure EndAlike (t : Trace signer) (r : Except SdkError GuardedSignResult) (t' : Trace signer)
    (r' : Except SdkError GuardedSignResult) : Prop where
  fails : (∃ e, r = .error e) ↔ ∃ e, r' = .error e
  assembled : ∀ result result', r = .ok result → r' = .ok result' →
    List.Forall₂ upToIds.same (upToIds.seen t) (upToIds.seen t')
  signedGroup : ∀ result result', r = .ok result → r' = .ok result' → result.signedGroup = result'.signedGroup

theorem alike_symm {t t' : Trace signer} (h : upToIds.Alike t t') : upToIds.Alike t' t :=
  fun e he e' he' => AnsweredAlike.symm (h e' he' e he)

/-- Programs that follow each other end alike. -/
theorem endAlike_of_follows {p q : Flow GuardedSignResult} {t t' : Trace signer}
    {r r' : Except SdkError GuardedSignResult}
    (h : Follows upToIds (fun result result' => result.signedGroup = result'.signedGroup) p q)
    (h' : Follows upToIds (fun result result' => result.signedGroup = result'.signedGroup) q p)
    (hp : Runs p t r) (hq : Runs q t' r') (halike : upToIds.Alike t t') : EndAlike t r t' r' := by
  refine ⟨⟨?_, ?_⟩, ?_, ?_⟩
  · rintro ⟨e, rfl⟩
    cases r' with
    | error e' => exact ⟨e', rfl⟩
    | ok result' =>
      obtain ⟨_, hok, -⟩ := h' t' result' t _ hq hp (alike_symm halike)
      cases hok
  · rintro ⟨e, rfl⟩
    cases r with
    | error e' => exact ⟨e', rfl⟩
    | ok result =>
      obtain ⟨_, hok, -⟩ := h t result t' _ hp hq halike
      cases hok
  · rintro result result' rfl rfl
    obtain ⟨_, -, -, hseen⟩ := h t result t' _ hp hq halike
    exact hseen
  · rintro result result' rfl rfl
    obtain ⟨_, hok, hgroup, -⟩ := h t result t' _ hp hq halike
    cases hok
    exact hgroup

/-- **The order of targets and of maps does not matter.** When questions are
answered alike, a guarded run ends as one with its targets and primary targets
in another order does, in each SDK, and a bounded run ends as every other one;
in Go also when the two range over their maps in different orders. -/
theorem signing_order_independent (env : Env) (henv : env.KnowsAscii) :
    (∀ (L : Language) (opts : GuardedSignOptions) (targets' : List GuardedSignTarget)
        (primaries' : List GuardedPrimarySignTarget), targets'.Perm opts.targets →
          primaries'.Perm opts.primaryTargets → ∀ t r t' r',
            Runs (signGuardedGroup (L.dialect env) opts) t r →
            Runs (signGuardedGroup (L.dialect env) (opts.reordered targets' primaries')) t' r' →
              upToIds.Alike t t' → EndAlike t r t' r') ∧
      (∀ (L : Language) (opts : PreparedGuardedGroupOptions) (t t' : Trace signer)
        (r r' : Except SdkError GuardedSignResult),
          Runs (signPreparedBoundedCosignerGroup (L.dialect env) opts) t r →
          Runs (signPreparedBoundedCosignerGroup (L.dialect env) opts) t' r' →
            upToIds.Alike t t' → EndAlike t r t' r') ∧
      (∀ (order order' : Go.MapOrder) (opts : GuardedSignOptions) (targets' : List GuardedSignTarget)
        (primaries' : List GuardedPrimarySignTarget), targets'.Perm opts.targets →
          primaries'.Perm opts.primaryTargets → ∀ t r t' r',
            Runs (Go.signGuardedGroup env order opts) t r →
            Runs (Go.signGuardedGroup env order' (opts.reordered targets' primaries')) t' r' →
              upToIds.Alike t t' → EndAlike t r t' r') ∧
      (∀ (order order' : Go.MapOrder) (opts : PreparedGuardedGroupOptions) (t t' : Trace signer)
        (r r' : Except SdkError GuardedSignResult),
          Runs (Go.signPreparedBoundedCosignerGroup env order opts) t r →
          Runs (Go.signPreparedBoundedCosignerGroup env order' opts) t' r' →
            upToIds.Alike t t' → EndAlike t r t' r') := by
  have hback : ∀ {L : Language} {opts : GuardedSignOptions} {targets' : List GuardedSignTarget}
      {primaries' : List GuardedPrimarySignTarget}, targets'.Perm opts.targets →
        primaries'.Perm opts.primaryTargets →
          Follows upToIds (fun result result' => result.signedGroup = result'.signedGroup)
            (signGuardedGroup (L.dialect env) (opts.reordered targets' primaries'))
            (signGuardedGroup (L.dialect env) opts) := by
    intro L opts targets' primaries' htargets hprimaries
    exact guarded_follows henv htargets.symm hprimaries.symm
  refine ⟨?_, ?_, ?_, ?_⟩
  · intro L opts targets' primaries' htargets hprimaries t r t' r'
    exact endAlike_of_follows (guarded_follows henv htargets hprimaries) (hback htargets hprimaries)
  · intro L opts t t' r r'
    exact endAlike_of_follows (bounded_follows henv) (bounded_follows henv)
  · intro order order' opts targets' primaries' htargets hprimaries t r t' r'
    have hforth : Follows upToIds (fun result result' => result.signedGroup = result'.signedGroup)
        (Go.signGuardedGroup env order opts)
        (Go.signGuardedGroup env order' (opts.reordered targets' primaries')) :=
      Follows.congr (guarded_follows (L := .go) henv htargets hprimaries) Go.sameRuns_guarded Go.sameRuns_guarded
    have hback' : Follows upToIds (fun result result' => result.signedGroup = result'.signedGroup)
        (Go.signGuardedGroup env order' (opts.reordered targets' primaries'))
        (Go.signGuardedGroup env order opts) :=
      Follows.congr (hback (L := .go) htargets hprimaries) Go.sameRuns_guarded Go.sameRuns_guarded
    exact endAlike_of_follows hforth hback'
  · intro order order' opts t t' r r'
    have hboth : ∀ order order', Follows upToIds (fun result result' => result.signedGroup = result'.signedGroup)
        (Go.signPreparedBoundedCosignerGroup env order opts)
        (Go.signPreparedBoundedCosignerGroup env order' opts) := fun _ _ =>
      Follows.congr (bounded_follows (L := .go) henv) Go.sameRuns_bounded Go.sameRuns_bounded
    exact endAlike_of_follows (hboth order order') (hboth order' order)

namespace Demo

/-- Parties that answer what they are asked answer alike. -/
theorem answeredAlike_answers (o o' : Op) : AnsweredAlike ⟨o, answers o⟩ ⟨o', answers o'⟩ := by
  cases o <;> cases o' <;> try exact trivial
  case keyInfo.keyInfo => exact fun _ _ _ => Iff.rfl
  case newRequestId.newRequestId => exact fun _ => rfl
  case plan.plan => exact fun _ _ => rfl
  case components.components client req client' req' =>
    intro _ hreq
    have htargets : req.withoutId.targets = req'.withoutId.targets := congrArg ComponentRequest.targets hreq
    exact .some ⟨.inl ⟨rfl, rfl⟩, congrArg (List.map component) htargets, rfl⟩
  case sign.sign => exact fun _ _ => rfl
  case assemble.assemble => exact fun _ _ => .some ⟨.inl ⟨rfl, rfl⟩, rfl, rfl⟩

theorem alike_answers (p q : Flow GuardedSignResult) : upToIds.Alike (traceOf answers p) (traceOf answers q) := by
  intro e he e' he'
  rw [ans_of_mem_traceOf answers p he, ans_of_mem_traceOf answers q he']
  exact answeredAlike_answers e.op e'.op

def twoTargets : List GuardedSignTarget :=
  [{ targetIndex := 1, guardedAccount := "B", logicSigResources := some usage },
    { targetIndex := 0, guardedAccount := "A", logicSigResources := some usage }]

def twoOptions : GuardedSignOptions where
  userClient := some ⟨0⟩
  cosigner := { client := some ⟨1⟩, componentKey := "cosigner-key" }
  groupBytesHex := [paymentHex, paymentHex]
  targets := twoTargets

/-- Two targets, signed in one order and in the other. -/
theorem signing_order_independent_two :
    Except.isOk (exec answers (signGuardedGroup (Language.typescript.dialect env) twoOptions)) = true ∧
      EndAlike (traceOf answers (signGuardedGroup (Language.typescript.dialect env) twoOptions))
        (exec answers (signGuardedGroup (Language.typescript.dialect env) twoOptions))
        (traceOf answers (signGuardedGroup (Language.typescript.dialect env)
          (twoOptions.reordered twoTargets.reverse [])))
        (exec answers (signGuardedGroup (Language.typescript.dialect env)
          (twoOptions.reordered twoTargets.reverse []))) := by
  refine ⟨by decide +kernel, ?_⟩
  exact (signing_order_independent env knowsAscii_env).1 .typescript twoOptions twoTargets.reverse []
    (List.reverse_perm _) (.refl _) _ _ _ _ (runs_traceOf ..) (runs_traceOf ..) (alike_answers _ _)

end Demo

end AplaneSdk