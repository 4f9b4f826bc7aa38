/-
# The calls of a signer client

One call is an exchange: the client fills in a request id if it has none,
validates the request, sends it, and accepts the reply or fails. `Dialect`
holds what differs between the SDKs; the parties that answer are the
environment of the program, and nothing is assumed of them.

Key definitions: `Op`, `signer`, `Flow`, `Calls`, `exchange`, `requestComponents`,
`requestAssemble`, `signGroup`, `planRequests`, `Language`.
Key theorems: `requestComponents_ok`, `requestAssemble_ok`,
`requestId_correlation`.
-/
import AplaneSdk.Lib.Interaction
import AplaneSdk.Assembly

namespace AplaneSdk

open Interaction Interaction.Prog

/-- A signer client, by identity. -/
structure Client where
  id : ℕ
  deriving DecidableEq

/-- The targets of one cosigner request: the client and component key they
were resolved to, and their indices. -/
abbrev CosignerGroup := (Option Client × String) × List ℤ

/-- What a request id is drawn for. -/
inductive Purpose
  | user (account : String)
  | cosigner (client : Client) (componentKey : String)
  | base
  | sign
  | assemble
  deriving DecidableEq

/-- What a client asks of the outside. -/
inductive Op
  | keyInfo (client : Client) (address : String)
  | newRequestId (purpose : Purpose)
  | plan (client : Client) (requests : List SignRequest)
  | components (client : Client) (req : ComponentRequest)
  | sign (client : Client) (req : GroupSignRequest)
  | assemble (client : Client) (req : AssemblyRequest)
  /-- The order in which Go ranges over the map of cosigner groups. -/
  | groupOrder (groups : List CosignerGroup)

@[reducible] def Op.Ans : Op → Type
  | keyInfo .. => Except SdkError (Option KeyInfo)
  | newRequestId _ => Option { random : Bytes // random.length = 16 }
  | plan .. => Reply PlanGroupResponse
  | components .. => Reply ComponentResponse
  | sign .. => Reply GroupSignResponse
  | assemble .. => Reply AssemblyResponse
  | groupOrder groups => { order : List CosignerGroup // order.Perm groups }

abbrev signer : Iface := ⟨Op, Op.Ans⟩

abbrev Flow := Prog signer SdkError

abbrev Exchange := Event signer

/-- What the SDKs do differently in a call. -/
structure Calls where
  validateComponentRequest : ComponentRequest → Except SdkError Unit
  acceptComponents : ComponentRequest → Reply ComponentResponse → Except SdkError ComponentResponse
  validateAssemblyRequest : AssemblyRequest → Except SdkError Unit
  acceptAssembly : AssemblyRequest → Reply AssemblyResponse → Except SdkError AssemblyResponse
  validateGroupSignRequest : GroupSignRequest → Except SdkError Unit
  acceptSign : GroupSignRequest → Reply GroupSignResponse → Except SdkError GroupSignResponse
  validatePlan : List SignRequest → Except SdkError Unit
  acceptPlan : Reply PlanGroupResponse → Except SdkError PlanGroupResponse
  /-- No random bytes for the id of a request of this name. -/
  noRandomness : String → SdkError

/-- A fresh request id. -/
def newRequestId (calls : Calls) (name : String) (purpose : Purpose) : Flow String := do
  let random ← query (I := signer) (.newRequestId purpose)
  match random with
  | none => throw (calls.noRandomness name)
  | some bytes => pure (newSignRequestId bytes.val)

/-- The id of a request: the caller's, or a fresh one. -/
def fillRequestId (calls : Calls) (name : String) (purpose : Purpose) (id : String) : Flow String :=
  if id = "" then newRequestId calls name purpose else pure id

def ComponentRequest.purpose (client : Client) (req : ComponentRequest) : Purpose :=
  match req.targets with
  | [] => .base
  | t :: _ => match t.kind with
    | .user => .user t.authAddress
    | .cosigner => .cosigner client t.componentKey
    | _ => .base

/-- The shape of a call: complete the request, validate it, send it, and
accept the reply. -/
def exchange {α Req Resp : Type} (fill : Flow α) (send : α → Req) (validate : Req → Except SdkError Unit)
    (op : Req → Op) (accept : (req : Req) → (op req).Ans → Except SdkError Resp) : Flow Resp := do
  let a ← fill
  liftM (validate (send a))
  let reply ← query (I := signer) (op (send a))
  liftM (accept (send a) reply)

/-- `RequestComponents`, `request_components`, `requestComponents`. -/
def requestComponents (calls : Calls) (client : Client) (req : ComponentRequest) :
    Flow ComponentResponse :=
  exchange (fillRequestId calls "component" (req.purpose client) req.requestId)
    (fun id => { req with requestId := id })
    (fun sent => mapErr (SdkError.wrap "invalid component request: ") (calls.validateComponentRequest sent))
    (.components client) calls.acceptComponents

/-- The planning authorization of a passthrough item stays with the client. -/
def AssemblyPassthroughItem.wire (item : AssemblyPassthroughItem) : AssemblyPassthroughItem :=
  { targetIndex := item.targetIndex, signedTxnHex := item.signedTxnHex }

/-- The request as it is sent. -/
def AssemblyRequest.sent (req : AssemblyRequest) (id : String) : AssemblyRequest :=
  { req with requestId := id, passthrough := req.passthrough.map (·.wire) }

/-- `RequestAssemble`, `request_assemble`, `requestAssemble`. -/
def requestAssemble (calls : Calls) (client : Client) (req : AssemblyRequest) :
    Flow AssemblyResponse :=
  exchange (fillRequestId calls "assembly" .assemble req.requestId)
    req.sent
    (fun sent => mapErr (SdkError.wrap "invalid assembly request: ") (calls.validateAssemblyRequest sent))
    (.assemble client) calls.acceptAssembly

/-- `SignGroup`, `sign_requests`, `signRequests`, called without an id. -/
def signGroup (calls : Calls) (client : Client) (requests : List SignRequest) :
    Flow GroupSignResponse :=
  exchange (newRequestId calls "sign" .sign) (fun id => { requestId := id, requests := requests })
    calls.validateGroupSignRequest (.sign client) calls.acceptSign

/-- `PlanRequests`, `plan_requests`, `planRequests`. -/
def planRequests (calls : Calls) (client : Client) (requests : List SignRequest) :
    Flow PlanGroupResponse :=
  exchange (pure ()) (fun _ => requests) calls.validatePlan (.plan client) fun _ => calls.acceptPlan

def Go.calls (env : Env) : Calls where
  validateComponentRequest := Go.validateComponentRequest env
  acceptComponents := Go.acceptComponents env
  validateAssemblyRequest := Go.validateAssemblyRequest env
  acceptAssembly := Go.acceptAssembly env
  validateGroupSignRequest := Go.validateGroupSignRequest env
  acceptSign := Go.acceptSign env
  validatePlan := Go.validateRequests env
  acceptPlan := Go.acceptPlan env
  noRandomness name := Go.err s!"failed to create {name} request ID: {env.noRandomness}"

def Python.calls (env : Env) : Calls where
  validateComponentRequest := Python.validateComponentRequest env
  acceptComponents := Python.acceptComponents env
  validateAssemblyRequest := Python.validateAssemblyRequest env
  acceptAssembly := Python.acceptAssembly env
  validateGroupSignRequest := Python.validateGroupSignRequest env
  acceptSign := Python.acceptSign
  validatePlan := Python.validateSignEntriesOf env
  acceptPlan := Python.acceptPlan
  noRandomness _ := { kind := .type, text := env.noRandomness }

def TypeScript.calls (env : Env) : Calls where
  validateComponentRequest := TypeScript.validateComponentRequest env
  acceptComponents := TypeScript.acceptComponents env
  validateAssemblyRequest := TypeScript.validateAssemblyRequest env
  acceptAssembly := TypeScript.acceptAssembly env
  validateGroupSignRequest := TypeScript.validateGroupSignRequest env
  acceptSign := TypeScript.acceptSign
  validatePlan := TypeScript.validateSignRequests env
  acceptPlan := TypeScript.acceptPlan
  noRandomness _ := { kind := .type, text := env.noRandomness }

inductive Language
  | go
  | python
  | typescript
  deriving DecidableEq

def Language.calls (env : Env) : Language → Calls
  | go => Go.calls env
  | python => Python.calls env
  | typescript => TypeScript.calls env

/-! ### Runs of a call -/

section Runs

variable {α Req Resp : Type} {fill : Flow α} {send : α → Req} {validate : Req → Except SdkError Unit}
  {op : Req → Op} {accept : (req : Req) → (op req).Ans → Except SdkError Resp} {t : Trace signer}

/-- A call that sent something ends as the acceptor says. -/
theorem runs_exchange {r : Except SdkError Resp} :
    Runs (exchange fill send validate op accept) t r ↔ (∃ e, Runs fill t (.error e) ∧ r = .error e) ∨
      ∃ a t₁, Runs fill t₁ (.ok a) ∧
        ((∃ e, validate (send a) = .error e ∧ t = t₁ ∧ r = .error e) ∨
          validate (send a) = .ok () ∧
            ∃ reply, t = t₁ ++ [⟨op (send a), reply⟩] ∧ r = accept (send a) reply) := by
  rw [exchange, runs_bind]
  refine or_congr_right ?_
  constructor
  · rintro ⟨a, t₁, t₂, rfl, hfill, h⟩
    refine ⟨a, t₁, hfill, ?_⟩
    rcases runs_lift_bind.mp h with ⟨e, hv, rfl, rfl⟩ | ⟨_, hv, h⟩
    · exact Or.inl ⟨e, hv, List.append_nil _, rfl⟩
    · rcases runs_bind.mp h with ⟨e, h, -⟩ | ⟨reply, t₃, t₄, rfl, hq, ha⟩
      · obtain ⟨_, -, h⟩ := runs_query.mp h
        cases h
      · obtain ⟨_, rfl, hreply⟩ := runs_query.mp hq
        cases hreply
        obtain ⟨rfl, rfl⟩ := ha
        exact Or.inr ⟨hv, reply, by simp, rfl⟩
  · rintro ⟨a, t₁, hfill, ⟨e, hv, rfl, rfl⟩ | ⟨hv, reply, rfl, rfl⟩⟩
    · exact ⟨a, t, [], by simp, hfill, runs_lift_bind.mpr (Or.inl ⟨e, hv, rfl, rfl⟩)⟩
    · refine ⟨a, t₁, _, rfl, hfill, runs_lift_bind.mpr (Or.inr ⟨(), hv, ?_⟩)⟩
      exact runs_bind.mpr (Or.inr ⟨reply, _, [], rfl, runs_query.mpr ⟨reply, rfl, rfl⟩, rfl, rfl⟩)

theorem runs_exchange_ok {resp : Resp} :
    Runs (exchange fill send validate op accept) t (.ok resp) ↔
      ∃ a t₁ reply, Runs fill t₁ (.ok a) ∧ validate (send a) = .ok () ∧
        t = t₁ ++ [⟨op (send a), reply⟩] ∧ accept (send a) reply = .ok resp := by
  rw [runs_exchange]
  constructor
  · rintro (⟨e, -, h⟩ | ⟨a, t₁, hfill, ⟨e, -, -, h⟩ | ⟨hv, reply, ht, h⟩⟩)
    · cases h
    · cases h
    · exact ⟨a, t₁, reply, hfill, hv, ht, h.symm⟩
  · rintro ⟨a, t₁, reply, hfill, hv, ht, h⟩
    exact Or.inr ⟨a, t₁, hfill, Or.inr ⟨hv, reply, ht, h.symm⟩⟩

/-! With given answers a call is the sequence of its steps. -/

theorem exec_exchange (answer : (o : Op) → o.Ans) :
    exec (I := signer) answer (exchange fill send validate op accept) =
      (exec (I := signer) answer fill).bind fun a => (validate (send a)).bind fun _ =>
        accept (send a) (answer (op (send a))) := by
  simp only [exchange, exec_bind, exec_lift]
  rfl

theorem exec_exchange_ok {answer : (o : Op) → o.Ans} {resp : Resp} :
    exec (I := signer) answer (exchange fill send validate op accept) = .ok resp ↔
      ∃ a, exec (I := signer) answer fill = .ok a ∧ validate (send a) = .ok () ∧
        accept (send a) (answer (op (send a))) = .ok resp := by
  rw [exec_exchange]
  refine bind_eq_ok.trans (exists_congr fun a => and_congr_right fun _ => ?_)
  exact seq_eq_ok

/-- A call that left an event behind which its first step cannot leave: the
event is the exchange, and the last thing that happened. -/
theorem exchange_at {S : Exchange → Prop} {pre post : Trace signer} {e : Exchange}
    {r : Except SdkError Resp} (hfill : Emits (fun e => ¬ S e) fill) (he : S e)
    (h : Runs (exchange fill send validate op accept) (pre ++ e :: post) r) :
    ∃ a reply, Runs fill pre (.ok a) ∧ validate (send a) = .ok () ∧ e = ⟨op (send a), reply⟩ := by
  obtain ⟨a, t, pre', rfl, hf, h⟩ := runs_bind_split hfill he h
  rcases runs_lift_bind.mp h with ⟨_, -, hnil, -⟩ | ⟨_, hv, ⟨reply, t', ht, hnil, -⟩⟩
  · simp at hnil
  · rw [hnil] at ht
    cases pre' with
    | nil =>
      rw [List.append_nil]
      exact ⟨a, reply, hf, hv, (List.cons.inj ht).1⟩
    | cons _ _ => simp at ht

/-- A call sends only what it has validated. -/
theorem emits_exchange_valid {S : Exchange → Prop} (hfill : Emits S fill)
    (hop : ∀ t a reply, Runs fill t (.ok a) → validate (send a) = .ok () → S ⟨op (send a), reply⟩) :
    Emits S (exchange fill send validate op accept) :=
  emits_bind_runs hfill fun t a hrun => emits_lift_bind fun _ hv =>
    emits_bind (emits_query fun reply => hop t a reply hrun hv) fun _ => emits_lift _

theorem emits_exchange {S : Exchange → Prop} (hfill : Emits S fill)
    (hop : ∀ a reply, S ⟨op (send a), reply⟩) : Emits S (exchange fill send validate op accept) :=
  emits_exchange_valid hfill fun _ a reply _ _ => hop a reply

variable {calls : Calls} {name id out : String} {purpose : Purpose}

theorem exec_newRequestId (answer : (o : Op) → o.Ans) :
    exec (I := signer) answer (newRequestId calls name purpose) =
      match answer (.newRequestId purpose) with
      | none => .error (calls.noRandomness name)
      | some random => .ok (newSignRequestId random.val) := by
  change exec (I := signer) answer (match answer (.newRequestId purpose) with
    | none => throw (calls.noRandomness name)
    | some random => pure (newSignRequestId random.val)) = _
  cases answer (.newRequestId purpose) <;> rfl

theorem emits_newRequestId {S : Exchange → Prop} (h : ∀ a, S ⟨.newRequestId purpose, a⟩) :
    Emits S (newRequestId calls name purpose) :=
  emits_bind (emits_query h) fun a => by cases a <;> exact emits_done _

theorem emits_fillRequestId {S : Exchange → Prop} (h : ∀ a, S ⟨.newRequestId purpose, a⟩) :
    Emits S (fillRequestId calls name purpose id) := by
  unfold fillRequestId
  split
  · exact emits_newRequestId h
  · exact emits_pure _

theorem newRequestId_ok : Runs (newRequestId calls name purpose) t (.ok out) ↔
    ∃ bytes, t = [⟨.newRequestId purpose, some bytes⟩] ∧ out = newSignRequestId bytes.val := by
  rw [newRequestId, runs_bind_ok]
  constructor
  · rintro ⟨random, t₁, t₂, rfl, hq, h⟩
    obtain ⟨_, rfl, hr⟩ := runs_query.mp hq
    cases hr
    cases random with
    | none => cases h.2
    | some bytes =>
      obtain ⟨rfl, hout⟩ := h
      exact ⟨bytes, by simp, Except.ok.inj hout⟩
  · rintro ⟨bytes, rfl, rfl⟩
    exact ⟨some bytes, _, [], by simp, runs_query.mpr ⟨_, rfl, rfl⟩, rfl, rfl⟩

/-- The id of a request is the caller's, or a fresh one where the caller gave none. -/
def IdFor (purpose : Purpose) (id : String) (t : Trace signer) (sent : String) : Prop :=
  id ≠ "" ∧ sent = id ∨
    id = "" ∧ ∃ bytes, (⟨.newRequestId purpose, some bytes⟩ : Exchange) ∈ t ∧ sent = newSignRequestId bytes.val

theorem fillRequestId_ok (h : Runs (fillRequestId calls name purpose id) t (.ok out)) :
    IdFor purpose id t out := by
  unfold fillRequestId at h
  split at h
  · obtain ⟨bytes, rfl, rfl⟩ := newRequestId_ok.mp h
    exact Or.inr ⟨‹_›, bytes, List.mem_singleton.mpr rfl, rfl⟩
  · cases h.2
    exact Or.inl ⟨‹_›, rfl⟩

theorem IdFor.mono {t' : Trace signer} {sent : String} (h : IdFor purpose id t sent) (ht : t ⊆ t') :
    IdFor purpose id t' sent := by
  rcases h with h | ⟨h, bytes, hb, hs⟩
  · exact Or.inl h
  · exact Or.inr ⟨h, bytes, ht hb, hs⟩

theorem IdFor.ne_empty {sent : String} (h : IdFor purpose id t sent) : sent ≠ "" := by
  rcases h with ⟨h, rfl⟩ | ⟨-, bytes, -, rfl⟩
  · exact h
  · exact newSignRequestId_ne_empty _

end Runs

/-! ### What all three SDKs check -/

/-- The checks every SDK makes in its calls. -/
structure Calls.Lawful (calls : Calls) : Prop where
  componentRequest : ∀ {req}, calls.validateComponentRequest req = .ok () →
    ∃ hasArgs, ComponentRequestOk hasArgs req
  components : ∀ {req reply resp}, calls.validateComponentRequest req = .ok () → req.requestId ≠ "" →
    calls.acceptComponents req reply = .ok resp →
      reply.okBody = some resp ∧ resp.requestId = req.requestId ∧ ComponentsMatch req resp
  assemblyRequest : ∀ {req}, calls.validateAssemblyRequest req = .ok () →
    ∃ idOk hasArgs, AssemblyRequestOk idOk hasArgs req
  assembly : ∀ {req reply resp}, calls.acceptAssembly req reply = .ok resp → reply.okBody = some resp
  sign : ∀ {req reply resp}, calls.acceptSign req reply = .ok resp → reply.okBody = some resp
  plan : ∀ {reply resp}, calls.acceptPlan reply = .ok resp → reply.okBody = some resp

section Lawful

variable {env : Env}

theorem Go.lawful_calls : (Go.calls env).Lawful where
  componentRequest h := ⟨_, (Go.validateComponentRequest_ok.mp h).2⟩
  components h hne hacc := by
    obtain ⟨hid, hok⟩ := Go.validateComponentRequest_ok.mp h
    exact (Go.acceptComponents_ok hok hid hne).mp hacc
  assemblyRequest h := ⟨_, _, (Go.validateAssemblyRequest_ok.mp h).2⟩
  assembly {req _ _} h := ((Go.acceptAssembly_ok req).mp h).1
  sign h := by
    simp only [Go.calls, Go.acceptSign, bind_eq_ok, decodeReply_ok, pure_eq_ok] at h
    obtain ⟨_, hbody, _, -, _, -, _, -, rfl⟩ := h
    exact hbody
  plan h := by
    simp only [Go.calls, Go.acceptPlan, bind_eq_ok, decodeReply_ok, pure_eq_ok] at h
    obtain ⟨_, hbody, _, -, _, -, rfl⟩ := h
    exact hbody

theorem Python.lawful_calls : (Python.calls env).Lawful where
  componentRequest h := ⟨_, (Python.validateComponentRequest_ok.mp h).2⟩
  components h hne hacc := by
    obtain ⟨hid, hok⟩ := Python.validateComponentRequest_ok.mp h
    obtain ⟨hbody, -, hmatch⟩ := (Python.acceptComponents_ok hok hid hne).mp hacc
    exact ⟨hbody, hmatch⟩
  assemblyRequest h := ⟨_, _, (Python.validateAssemblyRequest_ok.mp h).2⟩
  assembly {req _ _} h := ((Python.acceptAssembly_ok req).mp h).1
  sign h := (Python.acceptSign_ok.mp h).1
  plan h := by
    simp only [Python.calls, Python.acceptPlan, bind_eq_ok, decodeReply_ok, pure_eq_ok] at h
    obtain ⟨_, hbody, _, -, rfl⟩ := h
    exact hbody

theorem TypeScript.lawful_calls : (TypeScript.calls env).Lawful where
  componentRequest h := ⟨_, (TypeScript.validateComponentRequest_ok.mp h).2⟩
  components h hne hacc := by
    obtain ⟨hid, hok⟩ := TypeScript.validateComponentRequest_ok.mp h
    obtain ⟨hbody, -, hmatch⟩ := (TypeScript.acceptComponents_ok hok hid hne).mp hacc
    exact ⟨hbody, hmatch⟩
  assemblyRequest h := ⟨_, _, (TypeScript.validateAssemblyRequest_ok.mp h).2⟩
  assembly {req _ _} h := ((TypeScript.acceptAssembly_ok req).mp h).1
  sign h := (TypeScript.acceptSign_ok.mp h).1
  plan h := by
    simp only [TypeScript.calls, TypeScript.acceptPlan, bind_eq_ok, decodeReply_ok, pure_eq_ok] at h
    obtain ⟨_, hbody, _, -, rfl⟩ := h
    exact hbody

theorem Language.lawful_calls : ∀ L : Language, (L.calls env).Lawful
  | go => Go.lawful_calls
  | python => Python.lawful_calls
  | typescript => TypeScript.lawful_calls

end Lawful

/-! ### Correlation of responses -/

section Correlation

variable {calls : Calls} {client : Client} {t : Trace signer}

/-- What a successful `requestComponents` leaves behind: one component
exchange, and at most a drawn id before it. -/
structure Asked (calls : Calls) (client : Client) (req : ComponentRequest) (t : Trace signer)
    (resp : ComponentResponse) (id : String) (reply : Reply ComponentResponse) : Prop where
  sent : (⟨.components client { req with requestId := id }, reply⟩ : Exchange) ∈ t
  only : ∀ e ∈ t, e = ⟨.components client { req with requestId := id }, reply⟩ ∨
    ∃ purpose a, e = ⟨.newRequestId purpose, a⟩
  idFor : IdFor (req.purpose client) req.requestId t id
  valid : calls.validateComponentRequest { req with requestId := id } = .ok ()
  accepted : calls.acceptComponents { req with requestId := id } reply = .ok resp
  body : reply.okBody = some resp
  requestId : resp.requestId = id
  components : ComponentsMatch req resp

/-- An accepted component response answers the one request that was sent. -/
theorem requestComponents_ok (hl : calls.Lawful) {req : ComponentRequest} {resp : ComponentResponse}
    (h : Runs (requestComponents calls client req) t (.ok resp)) :
    ∃ id reply, Asked calls client req t resp id reply := by
  obtain ⟨id, t₁, reply, hfill, hv, rfl, hacc⟩ := runs_exchange_ok.mp h
  rw [mapErr_ok] at hv
  have hid := fillRequestId_ok hfill
  have hfresh : ∀ e ∈ t₁, ∃ purpose a, e = (⟨.newRequestId purpose, a⟩ : Exchange) :=
    emits_fillRequestId (fun a => ⟨_, a, rfl⟩) _ _ hfill
  obtain ⟨hbody, hreq, hmatch⟩ := hl.components hv hid.ne_empty hacc
  refine ⟨id, reply, by simp, fun e he => ?_, hid.mono (List.subset_append_left ..), hv, hacc, hbody,
    hreq, hmatch.nodup, hmatch.asked, hmatch.answered, hmatch.material⟩
  rcases List.mem_append.mp he with he | he
  · exact Or.inr (hfresh e he)
  · exact Or.inl (List.mem_singleton.mp he)

theorem runs_requestAssemble_ok {req : AssemblyRequest} {resp : AssemblyResponse} :
    Runs (requestAssemble calls client req) t (.ok resp) ↔
      ∃ id t₁ reply, Runs (fillRequestId calls "assembly" .assemble req.requestId) t₁ (.ok id) ∧
        calls.validateAssemblyRequest (req.sent id) = .ok () ∧
        t = t₁ ++ [⟨.assemble client (req.sent id), reply⟩] ∧
        calls.acceptAssembly (req.sent id) reply = .ok resp := by
  rw [requestAssemble, runs_exchange_ok]
  simp only [mapErr_ok]

/-- A run of `requestAssemble` that sent a request ends as its acceptor says. -/
theorem requestAssemble_sent {req sent : AssemblyRequest} {reply : Reply AssemblyResponse}
    {r : Except SdkError AssemblyResponse} (h : Runs (requestAssemble calls client req) t r)
    (he : (⟨.assemble client sent, reply⟩ : Exchange) ∈ t) :
    IdFor .assemble req.requestId t sent.requestId ∧ r = calls.acceptAssembly sent reply := by
  have hfresh : Emits (fun e : Exchange => e ≠ ⟨.assemble client sent, reply⟩)
      (fillRequestId calls "assembly" .assemble req.requestId) :=
    emits_fillRequestId fun a ha => by cases ha
  rcases runs_exchange.mp h with ⟨e, hfill, -⟩ | ⟨id, t₁, hfill, h⟩
  · exact absurd rfl (hfresh _ _ hfill _ he)
  · rcases h with ⟨e, -, rfl, -⟩ | ⟨-, reply', rfl, rfl⟩
    · exact absurd rfl (hfresh _ _ hfill _ he)
    · rcases List.mem_append.mp he with he | he
      · exact absurd rfl (hfresh _ _ hfill _ he)
      · cases List.mem_singleton.mp he
        exact ⟨(fillRequestId_ok hfill).mono (List.subset_append_left ..), rfl⟩

/-- The assembly body an SDK accepts whatever request it answers; Go's type
has no `error` field. -/
def Language.AssemblyBodyOk (L : Language) (body : AssemblyResponse) : Prop :=
  (L = go ∨ body.error = "") ∧ body.requestId ≠ "" ∧ ValidRequestId body.requestId ∧
    SignedGroupOk body.signedGroup

/-- Every component response is matched with its request by id, in all three
SDKs. Go and TypeScript accept an assembly response with another id whenever
a well-formed one arrives; Python never does. -/
theorem requestId_correlation (env : Env) (L : Language) (client : Client) :
    (∀ req t resp, Runs (requestComponents (L.calls env) client req) t (.ok resp) →
      ∃ sent reply, (⟨.components client sent, reply⟩ : Exchange) ∈ t ∧
        IdFor (req.purpose client) req.requestId t sent.requestId ∧ reply.okBody = some resp ∧
          resp.requestId = sent.requestId) ∧
    ∀ req t r sent reply, Runs (requestAssemble (L.calls env) client req) t r →
      (⟨.assemble client sent, reply⟩ : Exchange) ∈ t →
        IdFor .assemble req.requestId t sent.requestId ∧
          ((∀ resp, r = .ok resp → resp.requestId = sent.requestId) ↔
            L = .python ∨ ∀ body, reply.okBody = some body → L.AssemblyBodyOk body →
              body.requestId = sent.requestId) := by
  constructor
  · intro req t resp h
    obtain ⟨id, reply, ha⟩ := requestComponents_ok L.lawful_calls h
    exact ⟨_, reply, ha.sent, ha.idFor, ha.body, ha.requestId⟩
  · intro req t r sent reply h he
    obtain ⟨hid, rfl⟩ := requestAssemble_sent h he
    refine ⟨hid, ?_⟩
    cases L with
    | go =>
      have hacc : ∀ resp, (Language.go.calls env).acceptAssembly sent reply = .ok resp ↔ _ :=
        fun resp => Go.acceptAssembly_ok sent
      simp only [hacc, Language.AssemblyBodyOk, true_or, true_and, reduceCtorEq, false_or, and_imp]
    | python =>
      have hacc : ∀ resp, (Language.python.calls env).acceptAssembly sent reply = .ok resp ↔ _ :=
        fun resp => Python.acceptAssembly_ok sent
      simp only [hacc, true_or, iff_true]
      exact fun resp h => h.2.2.2.2.2
    | typescript =>
      have hacc : ∀ resp, (Language.typescript.calls env).acceptAssembly sent reply = .ok resp ↔ _ :=
        fun resp => TypeScript.acceptAssembly_ok sent
      simp only [hacc, Language.AssemblyBodyOk, reduceCtorEq, false_or, and_imp]

/-- The acceptor of an SDK, on a reply with an error-free body to a request
its validator let through. -/
theorem Language.acceptComponents_iff {env : Env} {L : Language} {req : ComponentRequest}
    {reply : Reply ComponentResponse} {resp accepted : ComponentResponse}
    (hv : (L.calls env).validateComponentRequest req = .ok ()) (hne : req.requestId ≠ "")
    (hbody : reply.okBody = some resp) (herr : resp.error = "") :
    (L.calls env).acceptComponents req reply = .ok accepted ↔
      accepted = resp ∧ resp.requestId = req.requestId ∧ ComponentsMatch req resp := by
  have hsome : some resp = some accepted ↔ resp = accepted := Option.some_inj
  cases L with
  | go =>
    obtain ⟨hid, hok⟩ := Go.validateComponentRequest_ok.mp hv
    have hacc : Go.acceptComponents env req reply = .ok accepted ↔ _ := Go.acceptComponents_ok hok hid hne
    rw [hbody, hsome] at hacc
    refine hacc.trans ⟨?_, ?_⟩
    · rintro ⟨rfl, h⟩
      exact ⟨rfl, h⟩
    · rintro ⟨rfl, h⟩
      exact ⟨rfl, h⟩
  | python =>
    obtain ⟨hid, hok⟩ := Python.validateComponentRequest_ok.mp hv
    have hacc : Python.acceptComponents env req reply = .ok accepted ↔ _ := Python.acceptComponents_ok hok hid hne
    rw [hbody, hsome] at hacc
    refine hacc.trans ⟨?_, ?_⟩
    · rintro ⟨rfl, -, h⟩
      exact ⟨rfl, h⟩
    · rintro ⟨rfl, h⟩
      exact ⟨rfl, herr, h⟩
  | typescript =>
    obtain ⟨hid, hok⟩ := TypeScript.validateComponentRequest_ok.mp hv
    have hacc : TypeScript.acceptComponents env req reply = .ok accepted ↔ _ := TypeScript.acceptComponents_ok hok hid hne
    rw [hbody, hsome] at hacc
    refine hacc.trans ⟨?_, ?_⟩
    · rintro ⟨rfl, -, h⟩
      exact ⟨rfl, h⟩
    · rintro ⟨rfl, h⟩
      exact ⟨rfl, herr, h⟩

/-- Under a valid request, matching is the exchange of one component for each
target: the same pairs of index and kind, each with the material of its kind. -/
theorem ComponentRequestOk.componentsMatch_iff {hasArgs : Option (List (String × String)) → Bool}
    {req : ComponentRequest} {resp : ComponentResponse} (hok : ComponentRequestOk hasArgs req) :
    ComponentsMatch req resp ↔
      (resp.components.map fun c => (c.targetIndex, c.kind)).Perm
        (req.targets.map fun t => (t.targetIndex, t.kind)) ∧
      ∀ c ∈ resp.components,
        (c.kind = .user ∨ c.kind = .cosigner → c.signature ≠ "" ∧ c.signatureScheme ≠ "" ∧
          c.baseSignatures = [] ∧ c.assemblyReceipt = "") ∧
        (c.kind = .boundedBase → c.authAddress ≠ "" ∧ c.baseSignatures ≠ [] ∧
          c.assemblyReceipt ≠ "" ∧ c.signatureScheme ≠ "" ∧ c.signature = "") := by
  have hkind : resp.kinds.Perm req.kinds → ∀ c ∈ resp.components, ∀ name, c.kind ≠ .other name := by
    intro hperm c hc name hname
    obtain ⟨t, ht, -, hk⟩ := ComponentRequest.mem_kinds.mp
      (hperm.mem_iff.mp (ComponentResponse.mem_kinds.mpr ⟨c, hc, rfl, rfl⟩))
    obtain ⟨k, hk'⟩ := List.mem_iff_getElem?.mp ht
    have hkinds := (hok.kinds k t hk').2
    rw [hk, hname] at hkinds
    exact hkinds
  rw [AplaneSdk.componentsMatch_iff hok.targets_nodup]
  constructor
  · intro h
    exact ⟨h.2.2, fun c hc => (Component.wellFormed_iff (hkind h.2.2 c hc)).mp (h.2.1 c hc)⟩
  · intro h
    refine ⟨?_, fun c hc => (Component.wellFormed_iff (hkind h.1 c hc)).mpr (h.2 c hc), h.1⟩
    rw [← ComponentResponse.keys_kinds]
    have hkeys : (req.kinds.map Prod.fst).Nodup := by
      rw [ComponentRequest.keys_kinds]
      exact hok.targets_nodup
    exact ((show resp.kinds.Perm req.kinds from h.1).map Prod.fst).nodup_iff.mpr hkeys

/-- **A component response is accepted exactly when it matches.** Whatever id
the request is sent under, an error-free answer to it is accepted if and only
if it echoes the id and holds one component for each target, of the kind asked
for and with the material of that kind, and no other. -/
theorem requestComponents_exact (env : Env) (L : Language) (client : Client) (req : ComponentRequest)
    (t : Trace signer) (id statusText text : String) (envelope : Option ErrorResponse)
    (resp : ComponentResponse)
    (hfill : Runs (fillRequestId (L.calls env) "component" (req.purpose client) req.requestId) t (.ok id))
    (hv : (L.calls env).validateComponentRequest { req with requestId := id } = .ok ())
    (herr : resp.error = "") :
    (∀ accepted, Runs (requestComponents (L.calls env) client req)
        (t ++ [⟨.components client { req with requestId := id },
          .http 200 statusText text envelope (some resp)⟩]) (.ok accepted) → accepted = resp) ∧
    (Runs (requestComponents (L.calls env) client req)
        (t ++ [⟨.components client { req with requestId := id },
          .http 200 statusText text envelope (some resp)⟩]) (.ok resp) ↔
      resp.requestId = id ∧
      (resp.components.map fun c => (c.targetIndex, c.kind)).Perm
        (req.targets.map fun t => (t.targetIndex, t.kind)) ∧
      ∀ c ∈ resp.components,
        (c.kind = .user ∨ c.kind = .cosigner → c.signature ≠ "" ∧ c.signatureScheme ≠ "" ∧
          c.baseSignatures = [] ∧ c.assemblyReceipt = "") ∧
        (c.kind = .boundedBase → c.authAddress ≠ "" ∧ c.baseSignatures ≠ [] ∧
          c.assemblyReceipt ≠ "" ∧ c.signatureScheme ≠ "" ∧ c.signature = "")) := by
  have hne : id ≠ "" := (fillRequestId_ok hfill).ne_empty
  have hacc : ∀ accepted, (L.calls env).acceptComponents { req with requestId := id }
      (.http 200 statusText text envelope (some resp)) = .ok accepted ↔ _ := fun accepted =>
    Language.acceptComponents_iff hv hne rfl herr
  have hruns : ∀ accepted, Runs (requestComponents (L.calls env) client req)
      (t ++ [⟨.components client { req with requestId := id },
        .http 200 statusText text envelope (some resp)⟩]) (.ok accepted) ↔
      accepted = resp ∧ resp.requestId = id ∧ ComponentsMatch { req with requestId := id } resp := by
    intro accepted
    rw [← hacc, requestComponents, runs_exchange_ok]
    constructor
    · rintro ⟨id', t₁, reply, -, -, ht, h⟩
      obtain ⟨-, he⟩ := List.append_inj' ht rfl
      cases List.singleton_inj.mp he
      exact h
    · intro h
      exact ⟨id, t, _, hfill, by rw [mapErr_ok]; exact hv, rfl, h⟩
  have hlawful : (L.calls env).Lawful := L.lawful_calls
  obtain ⟨hasArgs, hok⟩ := hlawful.componentRequest hv
  refine ⟨fun accepted h => ((hruns accepted).mp h).1, ?_⟩
  rw [hruns, hok.componentsMatch_iff]
  simp only [true_and]

end Correlation

namespace Demo

def paymentHex : String := hexEncode (txPrefix ++ paymentBytes)

def signedPaymentHex : String := hexEncode signedPaymentBytes

def zeroRandom : { random : Bytes // random.length = 16 } := ⟨List.replicate 16 0, rfl⟩

def componentRequest : ComponentRequest where
  requestId := "component-1"
  groupBytesHex := [paymentHex]
  targets := [{ kind := .user, targetIndex := 0, authAddress := "USER" }]

def componentResponse : ComponentResponse where
  requestId := "component-1"
  components := [{ kind := .user, targetIndex := 0, signatureScheme := "falcon1024", signature := "ab" }]

theorem requestComponents_exact_payment :
    Runs (requestComponents (Language.python.calls Demo.env) ⟨0⟩ componentRequest)
      [⟨.components ⟨0⟩ componentRequest, .http 200 "OK" "" none (some componentResponse)⟩]
      (.ok componentResponse) := by
  refine (requestComponents_exact Demo.env .python ⟨0⟩ componentRequest [] "component-1" "OK" "" none
    componentResponse ⟨rfl, rfl⟩ ?_ rfl).2.mpr ⟨rfl, ?_, ?_⟩
  · decide +kernel
  · decide
  · decide

def assemblyRequest : AssemblyRequest where
  requestId := "assembly-1"
  groupBytesHex := [paymentHex]
  targets := []
  passthrough := [{ targetIndex := 0, signedTxnHex := signedPaymentHex }]

/-- A well-formed response to some other request. -/
def strayResponse : AssemblyResponse where
  requestId := "assembly-2"
  signedGroup := [signedPaymentHex]

/-- Go takes the answer to `assembly-2` for that to `assembly-1`. -/
theorem requestAssemble_accepts_stray :
    Runs (requestAssemble (Language.go.calls Demo.env) ⟨0⟩ assemblyRequest)
      [⟨.assemble ⟨0⟩ (assemblyRequest.sent "assembly-1"), .http 200 "OK" "" none (some strayResponse)⟩]
      (.ok strayResponse) ∧
    strayResponse.requestId ≠ (assemblyRequest.sent "assembly-1").requestId := by
  refine ⟨?_, by decide⟩
  rw [runs_requestAssemble_ok]
  refine ⟨"assembly-1", [], .http 200 "OK" "" none (some strayResponse), ⟨rfl, rfl⟩, ?_, rfl, ?_⟩
  · decide +kernel
  · decide +kernel

end Demo

end AplaneSdk
