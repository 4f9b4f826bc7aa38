/-
# Whether the other SDKs are as strict as Go, over JSON

The same inputs and the same responses, given to `signGuardedGroup` of Python
or TypeScript and to that of Go. The bodies of the signing endpoints are JSON:
Python and TypeScript go on with them as they parsed, Go with what its decoder
makes of them, `Decoders`, of which nothing is assumed. `GoServed` is what is
left for Go to ask, once another SDK has returned a group.

Where the bodies are plain, that is where Go reads in them what they say, the
tests of the components are as strict as Go's, and three things are left:
those of `GoAccepts`.

Key definitions: `RawAnswers`, `Decoders`, `GoServed`, `SameGroup`,
`PlainBodies`, `Script.Reads`, `wireDecoders`.
Key theorems: `sameGroup_iff`, `goServed_iff`, `plainBodies_wire`,
`guarded_agrees`.
-/
import AplaneSdk.OwnRequests
import AplaneSdk.Scripts
import AplaneSdk.SignedGroups

namespace AplaneSdk

open Checks Grouping Interaction Interaction.Prog

/-- The responses of all parties, by role; the bodies of the signing endpoints
are JSON. -/
structure RawAnswers where
  keys : Client → String → Except SdkError (Option KeyInfo)
  ids : Purpose → Option { random : Bytes // random.length = 16 }
  plan : Client → Reply PlanGroupResponse
  components : Purpose → Reply Json
  sign : Client → Reply Json
  assemble : Client → Reply Json
  order : (groups : List CosignerGroup) → { order : List CosignerGroup // order.Perm groups }

/-- What Go's decoder makes of a body, if it is none of another type. -/
structure Decoders where
  components : Json → Option ComponentResponse
  sign : Json → Option GroupSignResponse
  assemble : Json → Option AssemblyResponse

/-- The same responses, as Go reads them. -/
def RawAnswers.decoded (R : RawAnswers) (decode : Decoders) : Answers where
  keys := R.keys
  ids := R.ids
  plan := R.plan
  components purpose := (R.components purpose).decoded decode.components
  sign client := (R.sign client).decoded decode.sign
  assemble client := (R.assemble client).decoded decode.assemble
  order := R.order

/-- The responses to what is asked besides signatures. -/
def RawAnswers.besides (R : RawAnswers) : Answers :=
  R.decoded ⟨fun _ => none, fun _ => none, fun _ => none⟩

def RawAnswers.oracle (R : RawAnswers) : (o : rawSigner.Op) → rawSigner.Ans o
  | .inl o => R.besides.oracle o
  | .inr (.components client req) => R.components (req.purpose client)
  | .inr (.sign client _) => R.sign client
  | .inr (.assemble client _) => R.assemble client

/-! ### Calls with given answers -/

section Calls

variable {R : RawAnswers} {s : Script} {client : Client}

theorem exec_quietly {α : Type} (p : Flow α) : exec R.oracle (quietly p) = exec R.besides.oracle p :=
  exec_via p

theorem exec_signingExchange_ok {Req Resp : Type} {fill : Flow String} {send : String → Req}
    {validate : Req → Except SdkError Unit} {op : Req → SigningOp}
    {accept : Req → Reply Json → Except SdkError Resp} {resp : Resp} :
    exec R.oracle (signingExchange fill send validate op accept) = .ok resp ↔
      ∃ id, exec R.besides.oracle fill = .ok id ∧ validate (send id) = .ok () ∧
        accept (send id) (R.oracle (.inr (op (send id)))) = .ok resp := by
  rw [signingExchange, exec_bind_ok]
  refine exists_congr fun id => and_congr (by rw [exec_quietly]) ?_
  rw [exec_bind_ok]
  refine ⟨fun ⟨_, hvalid, hrest⟩ => ⟨hvalid, ?_⟩, fun ⟨hvalid, hacc⟩ => ⟨(), hvalid, ?_⟩⟩
  · exact hrest
  · exact hacc

/-- A component request without an id of its own. -/
theorem Script.exec_requestComponents_ok {req : ComponentRequest} (hreq : req.requestId = "")
    {resp : RawComponentResponse} :
    exec R.oracle (s.requestComponents client req) = .ok resp ↔
      ∃ bytes, R.ids (req.purpose client) = some bytes ∧
        s.dialect.calls.validateComponentRequest { req with requestId := newSignRequestId bytes.val } = .ok () ∧
        s.acceptComponents { req with requestId := newSignRequestId bytes.val }
          (R.components (req.purpose client)) = .ok resp := by
  rw [Script.requestComponents, exec_signingExchange_ok, fillRequestId, if_pos hreq]
  simp only [exec_newRequestId_ok, mapErr_ok]
  constructor
  · rintro ⟨_, ⟨bytes, hb, rfl⟩, hrest⟩
    exact ⟨bytes, hb, hrest⟩
  · rintro ⟨bytes, hb, hrest⟩
    exact ⟨_, ⟨bytes, hb, rfl⟩, hrest⟩

theorem Script.exec_signGroup_ok {requests : List SignRequest} {body : Json} :
    exec R.oracle (s.signGroup client requests) = .ok body ↔ ∃ bytes, R.ids .sign = some bytes ∧
      s.dialect.calls.validateGroupSignRequest ⟨newSignRequestId bytes.val, requests⟩ = .ok () ∧
      s.acceptSign ⟨newSignRequestId bytes.val, requests⟩ (R.sign client) = .ok body := by
  rw [Script.signGroup, exec_signingExchange_ok]
  simp only [exec_newRequestId_ok]
  constructor
  · rintro ⟨_, ⟨bytes, hb, rfl⟩, hrest⟩
    exact ⟨bytes, hb, hrest⟩
  · rintro ⟨bytes, hb, hrest⟩
    exact ⟨_, ⟨bytes, hb, rfl⟩, hrest⟩

theorem Script.exec_requestAssemble_ok {req : RawAssemblyRequest} {body : Json} :
    exec R.oracle (s.requestAssemble client req) = .ok body ↔ ∃ id,
      R.besides.idFor .assemble req.requestId = some id ∧
      s.dialect.calls.validateAssemblyRequest ((s.sent req id).outline s.emptyIsTrue) = .ok () ∧
      s.acceptAssembly (s.sent req id) (R.assemble client) = .ok body := by
  rw [Script.requestAssemble, exec_signingExchange_ok]
  simp only [exec_fillRequestId_ok, mapErr_ok]
  rfl

end Calls

/-! ### Component requests -/

/-- The response to a component request answers it. -/
structure Answered (R : Answers) (client : Client) (req : ComponentRequest) (resp : ComponentResponse) :
    Prop where
  body : (R.components (req.purpose client)).okBody = some resp
  requestId : (R.ids (req.purpose client)).map (fun bytes => newSignRequestId bytes.val) = some resp.requestId
  components : ComponentsMatch req resp

section Components

variable {env : Env} {L : Language} {R : RawAnswers} {decode : Decoders} {s : Script} {frame : ComponentFrame}
  {targets : List GuardedSignTarget} {client user : Client}

/-- Once another SDK has sent the request, Go sends it and takes the responses
that answer it. -/
theorem requestComponents_iff (hd : s.dialect = L.dialect env) {kind : ComponentTargetKind} {key : String}
    {indices : List ℤ} (hk : kind = .user ∨ kind = .cosigner) {raw : RawComponentResponse}
    (h : exec R.oracle (s.requestComponents client
      (componentRequestForIndices s.dialect frame kind key indices)) = .ok raw) {resp : ComponentResponse} :
    exec (R.decoded decode).oracle (requestComponents (Go.dialect env).calls client
        (componentRequestForIndices (Go.dialect env) frame kind key indices)) = .ok resp ↔
      Answered (R.decoded decode) client (componentRequestForIndices (Go.dialect env) frame kind key indices)
        resp := by
  obtain ⟨bytes, hids, hvalid, -⟩ := (Script.exec_requestComponents_ok rfl).mp h
  rw [hd] at hids hvalid
  obtain ⟨hasArgs, hok⟩ := (L.lawful_dialect env).calls.componentRequest hvalid
  have hok' := componentRequestOk_of (g := Go.dialect env) hk (L.originalCount_eq env) hok
  rw [purpose_componentRequestForIndices (g := Go.dialect env)] at hids
  have hids' : (R.decoded decode).ids ((componentRequestForIndices (Go.dialect env) frame kind key
      indices).purpose client) = some bytes := hids
  have hfresh := validRequestId_newSignRequestId bytes.property
  have hacc : ∀ reply, (Go.dialect env).calls.acceptComponents
      { componentRequestForIndices (Go.dialect env) frame kind key indices with
        requestId := newSignRequestId bytes.val } reply = .ok resp ↔ _ := fun reply =>
    Go.acceptComponents_ok hok' hfresh (newSignRequestId_ne_empty bytes.val)
  rw [exec_requestComponents_ok rfl]
  constructor
  · rintro ⟨bytes', hb, -, haccept⟩
    obtain rfl := Option.some.inj (hids'.symm.trans hb)
    obtain ⟨hbody, hid, hmatch⟩ := (hacc _).mp haccept
    refine ⟨hbody, ?_, ⟨hmatch.nodup, hmatch.asked, hmatch.answered, hmatch.material⟩⟩
    rw [hids', hid]
    rfl
  · rintro ⟨hbody, hid, hmatch⟩
    rw [hids'] at hid
    refine ⟨bytes, hids', Go.validateComponentRequest_ok.mpr ⟨hfresh, hok'⟩, (hacc _).mpr ⟨hbody, ?_, ?_⟩⟩
    · exact (Option.some.inj hid).symm
    · exact ⟨hmatch.nodup, hmatch.asked, hmatch.answered, hmatch.material⟩

theorem userPhase_iff (hd : s.dialect = L.dialect env) {raws : List RawComponentResponse}
    (h : exec R.oracle (s.requestUserComponentSignatures user frame targets) = .ok raws) :
    (∃ responses, exec (R.decoded decode).oracle
        (requestUserComponentSignatures (Go.dialect env) user frame targets) = .ok responses) ↔
      ∀ p ∈ userGroups (Go.dialect env) targets, ∃ resp, Answered (R.decoded decode) user
        (componentRequestForIndices (Go.dialect env) frame .user p.1 p.2) resp := by
  unfold requestUserComponentSignatures
  simp only [exec_collect_ok, exists_forall₂]
  refine forall₂_congr fun p hp => exists_congr fun resp => ?_
  obtain ⟨raw, -, hraw⟩ := exists_of_forall₂ (exec_collect_ok.mp h) p
    ((userGroups_perm s.dialect (Go.dialect env) targets).mem_iff.mpr hp)
  exact requestComponents_iff hd (Or.inl rfl) hraw

/-- What another SDK was answered by each cosigner with its component key. -/
theorem cosignerPhase_asked (hs : s.Lawful) (hd : s.dialect = L.dialect env) {cosigner : CosignerOptions}
    {raws : List RawComponentResponse}
    (h : exec R.oracle (s.requestCosignerComponentSignatures cosigner frame targets) = .ok raws) :
    ∃ resolved, resolveAll (Go.dialect env) cosigner targets = .ok resolved ∧
      ∀ g ∈ cosignerGroups resolved, ∃ client raw, g.1.1 = some client ∧ exec R.oracle (s.requestComponents client
        (componentRequestForIndices s.dialect frame .cosigner g.1.2 g.2)) = .ok raw := by
  obtain ⟨resolved, hres, h⟩ := exec_bind_ok.mp h
  obtain ⟨groups, horder, h⟩ := exec_bind_ok.mp h
  rw [exec_quietly] at horder
  have hperm := hs.dialect.order (runs_of_exec horder)
  rw [exec_lift, hd] at hres
  refine ⟨resolved, resolveAll_go hres, fun g hg => ?_⟩
  obtain ⟨raw, -, hraw⟩ := exists_of_forall₂ (exec_collect_ok.mp h) g (hperm.mem_iff.mpr hg)
  unfold Script.requestCosignerGroup at hraw
  split at hraw
  · cases hraw
  · exact ⟨_, raw, ‹_›, hraw⟩

/-- Of each cosigner with its component key, the response. -/
theorem cosignerPhase_iff (hs : s.Lawful) (hd : s.dialect = L.dialect env) {cosigner : CosignerOptions}
    {raws : List RawComponentResponse}
    (h : exec R.oracle (s.requestCosignerComponentSignatures cosigner frame targets) = .ok raws) :
    (∃ responses, exec (R.decoded decode).oracle
        (requestCosignerComponentSignatures (Go.dialect env) cosigner frame targets) = .ok responses) ↔
      ∀ resolved, resolveAll (Go.dialect env) cosigner targets = .ok resolved →
        ∀ g ∈ cosignerGroups resolved, ∀ client, g.1.1 = some client → ∃ resp,
          Answered (R.decoded decode) client
            (componentRequestForIndices (Go.dialect env) frame .cosigner g.1.2 g.2) resp := by
  obtain ⟨resolved, hgo, heach⟩ := cosignerPhase_asked hs hd h
  have hgroups := (R.order (cosignerGroups resolved)).property
  have hgroup : ∀ g ∈ cosignerGroups resolved, (∃ resp, exec (R.decoded decode).oracle
      (requestCosignerGroup (Go.dialect env) frame g) = .ok resp) ↔ ∀ client, g.1.1 = some client → ∃ resp,
        Answered (R.decoded decode) client
          (componentRequestForIndices (Go.dialect env) frame .cosigner g.1.2 g.2) resp := by
    intro g hg
    obtain ⟨client, raw, hclient, hraw⟩ := heach g hg
    simp only [requestCosignerGroup, hclient, Option.some.injEq, forall_eq']
    exact exists_congr fun resp => requestComponents_iff hd (Or.inr rfl) hraw
  have hcollect : (∃ responses, exec (R.decoded decode).oracle
      (requestCosignerComponentSignatures (Go.dialect env) cosigner frame targets) = .ok responses) ↔
      ∃ responses, exec (R.decoded decode).oracle (collect (requestCosignerGroup (Go.dialect env) frame)
        (R.order (cosignerGroups resolved)).val) = .ok responses := by
    rw [requestCosignerComponentSignatures, hgo]
    rfl
  rw [hcollect]
  simp only [exec_collect_ok, exists_forall₂, hgo, Except.ok.injEq, forall_eq']
  constructor
  · exact fun hall g hg => (hgroup g hg).mp (hall g (hgroups.mem_iff.mpr hg))
  · exact fun hall g hg => (hgroup g (hgroups.mem_iff.mp hg)).mpr (hall g (hgroups.mem_iff.mp hg))

end Components

/-! ### The primary signer -/

/-- The primary signer's response, as Go reads it: without an error, with a
report Go can read, a signed transaction in each slot that asked for one, and
signatures of the submitted transactions at the primary positions. -/
structure PrimaryAnswered (env : Env) (R : Answers) (opts : GuardedSignOptions) (user : Client)
    (targets : List GuardedSignTarget) (resp : GroupSignResponse) : Prop where
  body : (R.sign user).okBody = some resp
  error : resp.error = ""
  slots : ∀ requests, primaryEntries (Go.dialect env) opts.groupBytesHex targets opts.primaryTargets
    opts.passthrough = .ok requests → SignedOk noText requests resp.signed
  present : ∀ p ∈ opts.primaryTargets, resp.signed.getD p.targetIndex.toNat "" ≠ ""
  verified : PrimaryVerified env opts.groupBytesHex opts.primaryTargets resp

section Primary

variable {env : Env} {L : Language} {R : RawAnswers} {decode : Decoders} {s : Script}
  {targets : List GuardedSignTarget} {user : Client} {opts : GuardedSignOptions}

theorem forwardAll_go {group signed : List String} {primaries : List GuardedPrimarySignTarget} :
    (∃ items, forwardAll (Go.dialect env) true group signed primaries = .ok items) ↔
      ∀ p ∈ primaries, signed.getD p.targetIndex.toNat "" ≠ "" ∧
        SignatureOf env (signed.getD p.targetIndex.toNat "") (group.getD p.targetIndex.toNat "") := by
  simp only [forwardAll_ok, exists_eq_left, forall_const]
  refine forall₂_congr fun p _ => and_congr_right fun _ => ?_
  exact Go.signedTxnMatchesCanonical_ok

/-- What another SDK has asked the primary signer, and was answered. -/
theorem Script.requestPrimary_asked {primaries : List GuardedPrimarySignTarget} {group : List String}
    {passthrough : List AssemblyPassthroughItem} {out : Json × List RawPassthroughItem}
    (h : exec R.oracle (s.requestPrimaryGuardedPassthrough user group targets primaries passthrough) = .ok out) :
    ∃ requests, primaryEntries s.dialect group targets primaries passthrough = .ok requests ∧
      exec R.oracle (s.signGroup user requests) = .ok out.1 ∧
      s.forwardAll s.dialect.verifiesPrimary group out.1 primaries = .ok out.2 := by
  obtain ⟨requests, hrequests, h⟩ := exec_bind_ok.mp h
  obtain ⟨body, hsign, h⟩ := exec_bind_ok.mp h
  obtain ⟨items, hitems, h⟩ := exec_bind_ok.mp h
  cases h
  exact ⟨requests, hrequests, hsign, hitems⟩

/-- Another SDK asks the primary signer if there are primary positions. -/
theorem Script.guardedPrimary_cases (hs : s.Lawful) {raw : Option Json × List RawPassthroughItem}
    (h : exec R.oracle (s.guardedPrimary opts user targets) = .ok raw) :
    (opts.primaryTargets = [] ∧ raw.2 = opts.passthrough.map (·.raw)) ∨
      opts.primaryTargets ≠ [] ∧ ∃ out, exec R.oracle (s.requestPrimaryGuardedPassthrough user opts.groupBytesHex
        targets opts.primaryTargets opts.passthrough) = .ok out ∧
          raw.2 = opts.passthrough.map (·.raw) ++ out.2 := by
  obtain ⟨passthrough, hpass, h⟩ := exec_bind_ok.mp h
  obtain rfl := normalizeAll_ok hs.dialect hpass
  by_cases hnone : opts.primaryTargets = []
  · rw [if_pos hnone] at h
    cases h
    exact Or.inl ⟨hnone, rfl⟩
  · rw [if_neg hnone] at h
    obtain ⟨out, hout, h⟩ := exec_bind_ok.mp h
    cases h
    exact Or.inr ⟨hnone, out, hout, rfl⟩

theorem requestPrimary_iff (hd : s.dialect = L.dialect env) {raw : Json × List RawPassthroughItem}
    (h : exec R.oracle (s.requestPrimaryGuardedPassthrough user opts.groupBytesHex targets opts.primaryTargets
      opts.passthrough) = .ok raw) :
    (∃ out, exec (R.decoded decode).oracle (requestPrimaryGuardedPassthrough (Go.dialect env) user
        opts.groupBytesHex targets opts.primaryTargets opts.passthrough) = .ok out) ↔
      ∃ resp, PrimaryAnswered env (R.decoded decode) opts user targets resp := by
  obtain ⟨requests, hrequests, hsign, -⟩ := Script.requestPrimary_asked h
  obtain ⟨bytes, hids, hvalid, -⟩ := Script.exec_signGroup_ok.mp hsign
  rw [hd] at hrequests hvalid
  obtain ⟨requests', hrequests', hsame⟩ := primaryEntries_go hrequests
  have hentries := (validateGroupSignRequest_entries hvalid).same hsame
  have hids' : (R.decoded decode).ids .sign = some bytes := hids
  have hvalid' : (Go.dialect env).calls.validateGroupSignRequest
      ⟨newSignRequestId bytes.val, requests'⟩ = .ok () :=
    seq_eq_ok.mpr ⟨Go.validateSignRequestId_ok.mpr (validRequestId_newSignRequestId bytes.property),
      (validateSignEntries_ok fun _ => by rw [mapErr_ok, Go.validateResources_ok]).mpr hentries⟩
  have hgo : ∀ resp, exec (R.decoded decode).oracle (signGroup (Go.dialect env).calls user requests') =
      .ok resp ↔ ((R.decoded decode).sign user).okBody = some resp ∧
        Go.decodeMutations resp.mutations ≠ none ∧ resp.error = "" ∧ SignedOk noText requests' resp.signed := by
    intro resp
    rw [exec_signGroup_ok, hids']
    simp only [Option.some.injEq, exists_eq_left', hvalid', true_and]
    exact Go.acceptSign_ok hentries
  constructor
  · rintro ⟨⟨resp, items⟩, hout⟩
    rw [requestPrimaryGuardedPassthrough, hrequests', lift_ok_bind] at hout
    obtain ⟨resp', hsign', hrest⟩ := exec_bind_ok.mp hout
    obtain ⟨items', hitems, -⟩ := exec_bind_ok.mp hrest
    obtain ⟨hbody, hreport, herror, hsigned⟩ := (hgo resp').mp hsign'
    have hforward := forwardAll_go.mp ⟨items', hitems⟩
    refine ⟨resp', hbody, herror, fun other hother => ?_, fun p hp => (hforward p hp).1,
      hreport, fun p hp => (hforward p hp).2⟩
    rw [hrequests'] at hother
    cases hother
    exact hsigned
  · rintro ⟨resp, hresp⟩
    obtain ⟨items, hitems⟩ := forwardAll_go.mpr fun p hp => ⟨hresp.present p hp, hresp.verified.signed p hp⟩
    refine ⟨(resp, items), ?_⟩
    rw [requestPrimaryGuardedPassthrough, hrequests', lift_ok_bind]
    refine exec_bind_ok.mpr ⟨resp, (hgo resp).mpr ⟨hresp.body, hresp.verified.report, hresp.error,
      hresp.slots requests' hrequests'⟩, ?_⟩
    exact exec_bind_ok.mpr ⟨items, hitems, rfl⟩

theorem guardedPrimary_iff (hs : s.Lawful) (hd : s.dialect = L.dialect env)
    {raw : Option Json × List RawPassthroughItem}
    (h : exec R.oracle (s.guardedPrimary opts user targets) = .ok raw) :
    (∃ out, exec (R.decoded decode).oracle (guardedPrimary (Go.dialect env) opts user targets) = .ok out) ↔
      (opts.primaryTargets ≠ [] → ∃ resp, PrimaryAnswered env (R.decoded decode) opts user targets resp) := by
  have hgo : mapEach (fun _ => (Go.dialect env).normalizePassthrough) 0 opts.passthrough =
      .ok opts.passthrough :=
    (mapEach_pure (P := fun _ => True) (g := id) fun x y => by simp [Go.dialect, eq_comm]).mpr (by simp)
  rw [guardedPrimary, hgo, lift_ok_bind]
  rcases Script.guardedPrimary_cases hs h with ⟨hnone, -⟩ | ⟨hnone, out, hout, -⟩
  · refine iff_of_true ⟨(none, opts.passthrough), ?_⟩ fun hne => absurd hnone hne
    rw [if_pos hnone]
    rfl
  · rw [if_neg hnone, ← requestPrimary_iff hd hout]
    constructor
    · rintro ⟨_, hgo⟩ -
      obtain ⟨out', hout', -⟩ := exec_bind_ok.mp hgo
      exact ⟨out', hout'⟩
    · intro hanswered
      obtain ⟨out', hout'⟩ := hanswered hnone
      exact ⟨_, exec_bind_ok.mpr ⟨out', hout', rfl⟩⟩

/-- Another SDK forwards the caller's items, and one for each primary position. -/
theorem Script.guardedPrimary_items (hs : s.Lawful) {raw : Option Json × List RawPassthroughItem}
    (h : exec R.oracle (s.guardedPrimary opts user targets) = .ok raw) :
    ∃ items, raw.2 = opts.passthrough.map (·.raw) ++ items ∧
      items.map (·.targetIndex) = sortIndices (opts.primaryTargets.map (·.targetIndex)) := by
  rcases Script.guardedPrimary_cases hs h with ⟨hnone, hraw⟩ | ⟨-, out, hout, hraw⟩
  · exact ⟨[], hraw.trans (List.append_nil _).symm, by simp [hnone, sortIndices]⟩
  · obtain ⟨requests, -, -, hitems⟩ := Script.requestPrimary_asked hout
    have hindex : ∀ i item, s.forwardPrimary s.dialect.verifiesPrimary opts.groupBytesHex out.1 i = .ok item →
        item.targetIndex = i ∧ True := by
      intro i item hitem
      obtain ⟨-, hitem⟩ := seq_eq_ok.mp hitem
      obtain ⟨-, hitem⟩ := seq_eq_ok.mp hitem
      cases hitem
      exact ⟨rfl, trivial⟩
    refine ⟨out.2, hraw, ?_⟩
    rw [(mapEach_index hindex hitems).1]
    exact List.map_id _

end Primary

/-! ### The assembler -/

/-- The assembler's response, as Go reads it: the submitted group, signed, and
the same that the others return. -/
structure Assembled (env : Env) (R : RawAnswers) (decode : Decoders) (group : List String) (user : Client)
    (resp : AssemblyResponse) : Prop where
  body : ((R.decoded decode).assemble user).okBody = some resp
  requestId : resp.requestId ≠ "" ∧ ValidRequestId resp.requestId
  signedGroup : SignedGroupOk resp.signedGroup
  verified : AssembledVerified env group resp
  same : ∀ body, (R.assemble user).okBody = some body →
    body.get? "signed_group" = some (.arr (resp.signedGroup.map .str))

/-- Each cosigner's response to the request of its component key answers it. -/
def CosignersAnswered (env : Env) (R : Answers) (opts : GuardedSignOptions) (targets : List GuardedSignTarget) :
    Prop :=
  ∀ resolved, resolveAll (Go.dialect env) opts.cosigner targets = .ok resolved →
    ∀ g ∈ cosignerGroups resolved, ∀ client, g.1.1 = some client → ∃ resp, Answered R client
      (componentRequestForIndices (Go.dialect env) (opts.frame targets) .cosigner g.1.2 g.2) resp

section Assembly

variable {env : Env} {L : Language} {R : RawAnswers} {decode : Decoders} {s : Script}
  {targets : List GuardedSignTarget} {user : Client} {opts : GuardedSignOptions}

/-- A side has a signature for each of its targets. -/
theorem Side.signatureAt {calls : Calls} {kind : ComponentTargetKind}
    {belongs : GuardedSignTarget → Asking → ComponentTarget → Prop} {t : Trace signer}
    {responses : List ComponentResponse} {asks : List Asking}
    (h : Side calls kind belongs targets t responses asks) {target : GuardedSignTarget} (hm : target ∈ targets) :
    ∃ sig, signatureAt responses target.targetIndex = some sig := by
  obtain ⟨requests, hround, honce⟩ := h.round
  obtain ⟨a, ha, x, hx, hi, -⟩ := h.named target hm
  obtain ⟨c, hc, hci⟩ := (hround.asked a ha).components.answered x hx
  rw [← hi, ← hci]
  exact ⟨_, hround.signatureAt honce ha hc⟩

/-- The targets Go assembles once both sides have answered. -/
theorem guardedTargets_go {R : Answers} {frame : ComponentFrame} {cosigner : CosignerOptions}
    {responses cosigned : List ComponentResponse} (hn : (targets.map (·.targetIndex)).Nodup)
    (haccount : ∀ target ∈ targets, target.guardedAccount ≠ "")
    (huser : exec R.oracle (requestUserComponentSignatures (Go.dialect env) user frame targets) = .ok responses)
    (hcosigner : exec R.oracle (requestCosignerComponentSignatures (Go.dialect env) cosigner frame targets) =
      .ok cosigned) :
    ∃ out, mapEach (fun _ => guardedAssemblyTarget responses cosigned) 0 targets = .ok out ∧
      out.map (·.targetIndex) = targets.map (·.targetIndex) ∧
      ∀ T ∈ out, T.Ok ValidRequestId hasSomeArgs := by
  obtain ⟨asks, hside⟩ := userSide (Go.lawful_dialect env) hn (runs_of_exec huser)
  obtain ⟨asks', hside'⟩ := cosignerSide (Go.lawful_dialect env) hn (runs_of_exec hcosigner)
  have heach : ∀ target ∈ targets, ∃ T, guardedAssemblyTarget responses cosigned target = .ok T := by
    intro target hm
    obtain ⟨u, hu⟩ := hside.signatureAt hm
    obtain ⟨c, hc⟩ := hside'.signatureAt hm
    rw [guardedAssemblyTarget, hu, hc]
    exact ⟨_, rfl⟩
  obtain ⟨out, hout⟩ := exists_forall₂.mpr heach
  have hmade := (mapEach_forall₂ (k := 0)).mpr hout
  exact ⟨out, hmade, guardedTargets_ok (L := .go) hside hside' haccount hmade⟩

/-- Go's assembly request passes where that of another SDK passed. -/
theorem assemblyRequest_go (hs : s.Lawful) {raws rawCosigned : List RawComponentResponse}
    {items : List RawPassthroughItem} {responses : List ComponentResponse}
    {passthrough : List AssemblyPassthroughItem} {id id' : String}
    {material : List RawAssemblyTarget × List RawPassthroughItem} {out : List AssemblyTarget}
    (hmaterial : (s.guardedClosing opts user targets raws (opts.passthrough.map (·.raw) ++ items)).material
      rawCosigned = .ok material)
    (hvalid : s.dialect.calls.validateAssemblyRequest
      ((s.sent ((s.guardedClosing opts user targets raws (opts.passthrough.map (·.raw) ++ items)).request
        material) id).outline s.emptyIsTrue) = .ok ())
    (hitems : items.map (·.targetIndex) = sortIndices (opts.primaryTargets.map (·.targetIndex)))
    (hindices : out.map (·.targetIndex) = targets.map (·.targetIndex))
    (htargets : ∀ T ∈ out, T.Ok ValidRequestId hasSomeArgs)
    (hforward : ∃ forwarded, passthrough = opts.passthrough ++ forwarded ∧
      (forwarded.map (·.targetIndex)).Perm (opts.primaryTargets.map (·.targetIndex)) ∧
      ∀ item ∈ forwarded, item.signedTxnHex ≠ "") :
    AssemblyRequestOk ValidRequestId hasSomeArgs (((guardedClosing (Go.dialect env) opts user targets responses
      passthrough).request (out, passthrough)).sent id') := by
  obtain ⟨idOk, hasArgs, hok⟩ := hs.dialect.calls.assemblyRequest hvalid
  obtain ⟨rawTargets, hraw, hout⟩ := bind_eq_ok.mp hmaterial
  cases hout
  obtain ⟨forwarded, rfl, hperm, hpresent⟩ := hforward
  have hrawIndices : rawTargets.map (·.targetIndex) = targets.map (·.targetIndex) := by
    refine (mapEach_index (P := fun _ => True) (fun target T hT => ⟨?_, trivial⟩) hraw).1
    unfold Script.guardedAssemblyTarget at hT
    split at hT
    · cases hT
    · split at hT
      · cases hT
      · cases hT
        rfl
  have hcover := hok.perm
  simp only [AssemblyRequest.indices, RawAssemblyRequest.outline, Script.sent, RawClosing.request,
    Script.guardedClosing, List.map_map, List.map_append, Function.comp_def] at hcover
  rw [hrawIndices, hitems] at hcover
  refine assemblyRequestOk_of_perm hok.bytes ?_ ?_ ?_
  · refine List.Perm.trans ?_ hcover
    simp only [AssemblyRequest.indices, AssemblyRequest.sent, Closing.request, guardedClosing, List.map_map,
      List.map_append, Function.comp_def]
    rw [hindices]
    exact ((hperm.trans (sortIndices_perm _).symm).append_left _).append_left _
  · exact htargets
  · intro p hp
    simp only [AssemblyRequest.sent, Closing.request, List.map_append, List.mem_append, List.mem_map] at hp
    rcases hp with ⟨item, hitem, rfl⟩ | ⟨item, hitem, rfl⟩
    · -- the caller's items are texts, which are sent on as they are
      have hsent : { item.raw with signedTxnHex := s.forwarded (.str item.signedTxnHex) } ∈
          (s.sent ((s.guardedClosing opts user targets raws (opts.passthrough.map (·.raw) ++ items)).request
            (rawTargets, opts.passthrough.map (·.raw) ++ items)) id).passthrough :=
        List.mem_map.mpr ⟨item.raw, List.mem_append_left _ (List.mem_map_of_mem hitem), rfl⟩
      rw [hs.forwarded] at hsent
      exact hok.passthrough _ (List.mem_map_of_mem hsent)
    · exact hpresent item hitem

/-- What another SDK has asked once the user side was complete. -/
theorem Script.closing_asked {c : RawClosing} {raw : List RawComponentResponse × Json}
    (h : exec R.oracle (s.cosignAndAssemble c) = .ok raw) :
    exec R.oracle (s.requestCosignerComponentSignatures c.cosigner c.frame c.targets) = .ok raw.1 ∧
      ∃ material, c.material raw.1 = .ok material ∧
        exec R.oracle (s.requestAssemble c.user (c.request material)) = .ok raw.2 := by
  obtain ⟨cosigned, hcosigned, h⟩ := exec_bind_ok.mp h
  obtain ⟨material, hmaterial, h⟩ := exec_bind_ok.mp h
  obtain ⟨body, hassemble, h⟩ := exec_bind_ok.mp h
  obtain ⟨_, -, h⟩ := exec_bind_ok.mp h
  cases h
  exact ⟨hcosigned, material, hmaterial, hassemble⟩

theorem Script.acceptAssembly_body {req : RawAssemblyRequest} {reply : Reply Json} {body : Json}
    (h : s.acceptAssembly req reply = .ok body) : reply.okBody = some body := by
  obtain ⟨data, hdata, h⟩ := bind_eq_ok.mp h
  obtain ⟨_, -, h⟩ := bind_eq_ok.mp h
  obtain ⟨-, h⟩ := seq_eq_ok.mp h
  cases h
  exact Script.body_ok hdata

theorem getD_null_eq_arr {v : Option Json} {xs : List Json} : v.getD .null = .arr xs ↔ v = some (.arr xs) := by
  cases v <;> simp

/-- Go ends with the same group where the rest of the responses are answers too. -/
theorem closing_iff (hs : s.Lawful) (hd : s.dialect = L.dialect env) (hn : (targets.map (·.targetIndex)).Nodup)
    (haccount : ∀ target ∈ targets, target.guardedAccount ≠ "") {responses : List ComponentResponse}
    (huser : exec (R.decoded decode).oracle
      (requestUserComponentSignatures (Go.dialect env) user (opts.frame targets) targets) = .ok responses)
    {primary : Option GroupSignResponse × List AssemblyPassthroughItem}
    (hprimary : exec (R.decoded decode).oracle (guardedPrimary (Go.dialect env) opts user targets) = .ok primary)
    {raws : List RawComponentResponse} {items : List RawPassthroughItem}
    (hitems : items.map (·.targetIndex) = sortIndices (opts.primaryTargets.map (·.targetIndex)))
    {raw : List RawComponentResponse × Json}
    (h : exec R.oracle (s.cosignAndAssemble
      (s.guardedClosing opts user targets raws (opts.passthrough.map (·.raw) ++ items))) = .ok raw) :
    (∃ out, exec (R.decoded decode).oracle (cosignAndAssemble (Go.dialect env)
        (guardedClosing (Go.dialect env) opts user targets responses primary.2)) = .ok out ∧
      (raw.2.get? "signed_group").getD .null = .arr (out.2.signedGroup.map .str)) ↔
      ValidRequestId opts.assemblyRequestId ∧ CosignersAnswered env (R.decoded decode) opts targets ∧
        ∃ resp, Assembled env R decode opts.groupBytesHex user resp := by
  obtain ⟨hraw, material, hmaterial, hassemble⟩ := Script.closing_asked h
  obtain ⟨id, hids, hvalid, hacc⟩ := Script.exec_requestAssemble_ok.mp hassemble
  have hids' : (R.decoded decode).idFor .assemble opts.assemblyRequestId = some id := hids
  have hraw' : (R.assemble user).okBody = some raw.2 := Script.acceptAssembly_body hacc
  have haccepts : ∀ req resp, (Go.dialect env).calls.acceptAssembly req ((R.decoded decode).assemble user) =
      .ok resp ↔ ((R.decoded decode).assemble user).okBody = some resp ∧ resp.requestId ≠ "" ∧
        ValidRequestId resp.requestId ∧ SignedGroupOk resp.signedGroup := fun req _ => Go.acceptAssembly_ok req
  have hcosigners : _ ↔ CosignersAnswered env (R.decoded decode) opts targets := cosignerPhase_iff hs hd hraw
  rw [← hcosigners]
  simp only [getD_null_eq_arr]
  constructor
  · rintro ⟨out, hgo, hsame⟩
    obtain ⟨cosigned, hcosigned, hgo⟩ := exec_bind_ok.mp hgo
    obtain ⟨material', -, hgo⟩ := exec_bind_ok.mp hgo
    obtain ⟨resp, hassembled, hgo⟩ := exec_bind_ok.mp hgo
    obtain ⟨_, hverify, hout⟩ := exec_bind_ok.mp hgo
    cases hout
    obtain ⟨id', hid', hvalid', hacc'⟩ := exec_requestAssemble_ok.mp (exec_mapError_ok.mp hassembled)
    obtain ⟨hresp, hne, hid, hgroup⟩ := (haccepts _ _).mp hacc'
    rw [exec_lift, checkWhen_ok] at hverify
    refine ⟨(Answers.idFor_valid hid').mp (Go.validateAssemblyRequest_ok.mp hvalid').1, ⟨cosigned, hcosigned⟩,
      resp, hresp, ⟨hne, hid⟩, hgroup, verifyAssembledGroup_go.mp (hverify rfl), fun other hother => ?_⟩
    rw [Option.some.inj (hother.symm.trans hraw')]
    exact hsame
  · rintro ⟨hid, ⟨cosigned, hcosigned⟩, resp, hresp⟩
    obtain ⟨out, hmade, hindices, htargets⟩ := guardedTargets_go hn haccount huser hcosigned
    obtain ⟨forwarded, hforwarded, hside⟩ := guardedPrimary_ok (Go.lawful_dialect env) (runs_of_exec hprimary)
    have hok : AssemblyRequestOk ValidRequestId hasSomeArgs (((guardedClosing (Go.dialect env) opts user targets
        responses primary.2).request (out, primary.2)).sent id) :=
      assemblyRequest_go hs hmaterial hvalid hitems hindices htargets ⟨forwarded, hforwarded, hside.items⟩
    refine ⟨(cosigned, resp), ?_, hresp.same raw.2 hraw'⟩
    refine exec_bind_ok.mpr ⟨cosigned, hcosigned, exec_bind_ok.mpr ⟨(out, primary.2), ?_, ?_⟩⟩
    · exact bind_eq_ok.mpr ⟨out, hmade, rfl⟩
    · refine exec_bind_ok.mpr ⟨resp, exec_mapError_ok.mpr (exec_requestAssemble_ok.mpr
        ⟨id, hids', ?_, ?_⟩), exec_bind_ok.mpr ⟨(), ?_, rfl⟩⟩
      · exact Go.validateAssemblyRequest_ok.mpr ⟨(Answers.idFor_valid hids').mpr hid, hok⟩
      · exact (haccepts _ _).mpr ⟨hresp.body, hresp.requestId.1, hresp.requestId.2, hresp.signedGroup⟩
      · rw [exec_lift, checkWhen_ok]
        exact fun _ => verifyAssembledGroup_go.mpr hresp.verified

end Assembly

/-! ### The whole choreography -/

/-- What Go asks of the responses: each, as Go reads it, answers its request,
the signed transactions are those of the submitted ones, and the group is that
of the body. -/
structure Serves (env : Env) (R : RawAnswers) (decode : Decoders) (opts : GuardedSignOptions) (user : Client)
    (targets : List GuardedSignTarget) : Prop where
  users : ∀ p ∈ userGroups (Go.dialect env) targets, ∃ resp, Answered (R.decoded decode) user
    (componentRequestForIndices (Go.dialect env) (opts.frame targets) .user p.1 p.2) resp
  primary : opts.primaryTargets ≠ [] → ∃ resp, PrimaryAnswered env (R.decoded decode) opts user targets resp
  cosigners : CosignersAnswered env (R.decoded decode) opts targets
  assembled : ∃ resp, Assembled env R decode opts.groupBytesHex user resp

/-- The condition under which Go goes along: a valid id for the assembly, and
responses it takes. -/
def GoServed (env : Env) (R : RawAnswers) (decode : Decoders) (opts : GuardedSignOptions) : Prop :=
  ValidRequestId opts.assemblyRequestId ∧ ∀ user, opts.userClient = some user →
    Serves env R decode opts user (sortTargets opts.targets)

/-- Go ends with the group that another SDK returned. -/
def SameGroup (env : Env) (R : RawAnswers) (decode : Decoders) (opts : GuardedSignOptions)
    (res : RawSignResult) : Prop :=
  ∃ res', exec (R.decoded decode).oracle (signGuardedGroup (Go.dialect env) opts) = .ok res' ∧
    res.signedGroup = .arr (res'.signedGroup.map .str)

section Whole

variable {env : Env} {L : Language} {R : RawAnswers} {decode : Decoders} {s : Script}
  {opts : GuardedSignOptions} {res : RawSignResult}

theorem sameGroup_iff (hs : s.Lawful) (hd : s.dialect = L.dialect env)
    (h : exec R.oracle (s.signGuardedGroup opts) = .ok res) :
    SameGroup env R decode opts res ↔ GoServed env R decode opts := by
  obtain ⟨⟨user, targets⟩, hprelude, h⟩ := exec_bind_ok.mp h
  obtain ⟨raws, huser, h⟩ := exec_bind_ok.mp h
  obtain ⟨⟨rawPrimary, rawItems⟩, hprimary, h⟩ := exec_bind_ok.mp h
  obtain ⟨raw, hclosing, hout⟩ := exec_bind_ok.mp h
  cases hout
  rw [exec_lift, hd] at hprelude
  have hprelude' := guardedPrelude_go hprelude
  obtain ⟨hclient, rfl, hn⟩ := guardedPrelude_ok hprelude'
  have haccount := fun target ht => (guardedPrelude_targets (L := .go) hprelude' target ht).1
  obtain ⟨items, hitems, hindices⟩ := Script.guardedPrimary_items hs hprimary
  cases hitems
  have hserves : (∀ u, opts.userClient = some u → Serves env R decode opts u (sortTargets opts.targets)) ↔
      Serves env R decode opts user (sortTargets opts.targets) := by
    refine ⟨fun hall => hall user hclient, fun hserves u hu => ?_⟩
    rw [hclient] at hu
    exact Option.some.inj hu ▸ hserves
  rw [GoServed, hserves]
  constructor
  · rintro ⟨res', hgo, hsame⟩
    rw [signGuardedGroup, hprelude', lift_ok_bind] at hgo
    obtain ⟨responses, huser', hgo⟩ := exec_bind_ok.mp hgo
    obtain ⟨primary, hprimary', hgo⟩ := exec_bind_ok.mp hgo
    obtain ⟨out, hclosing', hout⟩ := exec_bind_ok.mp hgo
    cases hout
    obtain ⟨hid, hcosigners, hassembled⟩ := (closing_iff hs hd hn haccount huser' hprimary' hindices hclosing).mp
      ⟨out, hclosing', hsame⟩
    exact ⟨hid, (userPhase_iff hd huser).mp ⟨responses, huser'⟩,
      (guardedPrimary_iff hs hd hprimary).mp ⟨primary, hprimary'⟩, hcosigners, hassembled⟩
  · rintro ⟨hid, hserves⟩
    obtain ⟨responses, huser'⟩ := (userPhase_iff hd huser).mpr hserves.users
    obtain ⟨primary, hprimary'⟩ := (guardedPrimary_iff hs hd hprimary).mpr hserves.primary
    obtain ⟨out, hclosing', hsame⟩ := (closing_iff hs hd hn haccount huser' hprimary' hindices hclosing).mpr
      ⟨hid, hserves.cosigners, hserves.assembled⟩
    rw [SameGroup, signGuardedGroup, hprelude', lift_ok_bind]
    exact ⟨_, exec_bind_ok.mpr ⟨responses, huser', exec_bind_ok.mpr ⟨primary, hprimary',
      exec_bind_ok.mpr ⟨out, hclosing', rfl⟩⟩⟩, hsame⟩

end Whole

/-! ### Plain bodies -/

/-- The member is the text, or is missing where the text is empty. -/
def SaysText (v : Option Json) (text : String) : Prop :=
  v = some (.str text) ∨ (v = none ∨ v = some .null) ∧ text = ""

def SaysTexts (v : Option Json) (texts : List String) : Prop :=
  v = some (.arr (texts.map .str)) ∨ (v = none ∨ v = some .null) ∧ texts = []

structure SaysComponent (body : Json) (c : Component) : Prop where
  index : body.get? "target_index" = some (.int c.targetIndex)
  kind : componentKind (body.get? "kind") = c.kind
  signature : SaysText (body.get? "signature") c.signature
  scheme : SaysText (body.get? "signature_scheme") c.signatureScheme
  address : SaysText (body.get? "auth_address") c.authAddress
  base : SaysTexts (body.get? "base_signatures") c.baseSignatures
  receipt : SaysText (body.get? "assembly_receipt") c.assemblyReceipt

structure SaysComponents (body : Json) (resp : ComponentResponse) : Prop where
  requestId : SaysText (body.get? "request_id") resp.requestId
  components : ∃ items, body.get? "components" = some (.arr items) ∧
    List.Forall₂ SaysComponent items resp.components

structure SaysSign (body : Json) (resp : GroupSignResponse) : Prop where
  signed : SaysTexts (body.get? "signed") resp.signed
  error : SaysText (body.get? "error") resp.error

structure SaysAssembly (body : Json) (resp : AssemblyResponse) : Prop where
  requestId : SaysText (body.get? "request_id") resp.requestId
  signedGroup : SaysTexts (body.get? "signed_group") resp.signedGroup

/-- Go reads every body, and reads in it what it says. -/
structure PlainBodies (R : RawAnswers) (decode : Decoders) : Prop where
  components : ∀ purpose body, (R.components purpose).okBody = some body →
    ∃ resp, decode.components body = some resp ∧ SaysComponents body resp
  sign : ∀ client body, (R.sign client).okBody = some body →
    ∃ resp, decode.sign body = some resp ∧ SaysSign body resp
  assemble : ∀ client body, (R.assemble client).okBody = some body →
    ∃ resp, decode.assemble body = some resp ∧ SaysAssembly body resp

section Says

variable {emptyIsTrue : Bool} {v : Option Json} {text : String} {texts : List String}

theorem SaysText.isOff_iff (h : SaysText v text) : isOff emptyIsTrue v = true ↔ text = "" := by
  rcases h with rfl | ⟨rfl | rfl, rfl⟩
  · simp [isOff, Json.truthy]
  · simp [isOff]
  · simp [isOff, Json.truthy]

theorem SaysText.isText_iff (h : SaysText v text) {s : String} (hs : s ≠ "") :
    isText v s = true ↔ text = s := by
  rcases h with rfl | ⟨rfl | rfl, rfl⟩
  · simp [isText]
  · simp [isText, hs.symm]
  · simp [isText, hs.symm]

theorem SaysText.bodyError (h : SaysText v text) {env : Env} {data : Json} (hv : data.get? "error" = v) :
    bodyError env emptyIsTrue data = none ↔ text = "" := by
  rcases h with rfl | ⟨rfl | rfl, rfl⟩
  · by_cases ht : text = "" <;> simp [AplaneSdk.bodyError, hv, Json.truthy, ht]
  · simp [AplaneSdk.bodyError, hv]
  · simp [AplaneSdk.bodyError, hv, Json.truthy]

/-- Slots of texts are signed as the texts are. -/
theorem signedOk_texts {requests : List SignRequest}
    (h : SignedOk (fun v : Json => !v.truthy emptyIsTrue) requests (texts.map .str)) :
    SignedOk noText requests texts := by
  obtain ⟨hlen, hslots, hrest⟩ := h
  have htext : ∀ t : String, (!(Json.str t).truthy emptyIsTrue) = noText t := by
    intro t
    rw [Json.truthy, noText, bne, Bool.not_not]
  rw [List.length_map] at hlen
  refine ⟨hlen, fun j r hr hforeign => ?_, fun t ht => ?_⟩
  · have hslot := hslots j r hr hforeign
    rw [List.getElem?_map, Option.all_map] at hslot
    simpa only [Function.comp_def, htext] using hslot
  · rw [← htext t]
    refine hrest (.str t) ?_
    rw [← List.map_drop]
    exact List.mem_map_of_mem ht

end Says

/-- How the SDKs read plain members. -/
structure Script.Reads (s : Script) : Prop where
  index : ∀ n, s.index (.int n) = some n
  hasItems : ∀ {v texts}, SaysTexts v texts → (s.hasItems v = true ↔ texts ≠ [])
  componentItems : ∀ {xs ys}, s.componentItems (some (.arr xs)) = .ok ys → ys = xs
  sign : ∀ {req reply body resp}, s.acceptSign req reply = .ok body → SaysSign body resp →
    resp.error = "" ∧ SignedOk noText req.requests resp.signed
  slot : ∀ {body resp}, SaysSign body resp → ∀ i, s.slot body i = resp.signed[i]?.map .str
  groupItems : ∀ {v texts items}, SaysTexts v texts → s.groupItems v = .ok items →
    items = texts.map .str ∧ texts ≠ []
  assemblyId : ∀ {v id sent}, SaysText v id → id ≠ "" → s.checkAssemblyId v = .ok () →
    (s.comparesAssemblyId = true → id = sent) → ValidRequestId sent → ValidRequestId id

section Reads

variable {s : Script} {req : ComponentRequest}

theorem Script.componentKinds (hr : s.Reads) {items : List Json} {components : List Component}
    (h : List.Forall₂ SaysComponent items components) :
    ((items.map s.component).map fun c => (c.targetIndex, c.kind)) =
      components.map fun c => (c.targetIndex, c.kind) := by
  rw [List.map_map, ← List.forall₂_eq_eq_eq, List.forall₂_map_left_iff, List.forall₂_map_right_iff]
  refine h.imp fun item c hc => ?_
  rw [Function.comp_apply, Script.component, hc.index, hc.kind]
  dsimp only
  rw [Option.bind_some, hr.index, Option.getD_some]

theorem Script.checkMaterial_said (hr : s.Reads) {k : ℕ} {item : Json} {c : Component}
    (hc : SaysComponent item c) (h : s.checkMaterial k (s.component item) = .ok ()) : c.WellFormed := by
  have hkind : (s.component item).kind = c.kind := hc.kind
  have hsignature : s.lacks (s.component item) "signature" = true ↔ c.signature = "" := hc.signature.isOff_iff
  have hscheme : s.lacks (s.component item) "signature_scheme" = true ↔ c.signatureScheme = "" :=
    hc.scheme.isOff_iff
  have haddress : s.lacks (s.component item) "auth_address" = true ↔ c.authAddress = "" :=
    hc.address.isOff_iff
  have hreceipt : s.lacks (s.component item) "assembly_receipt" = true ↔ c.assemblyReceipt = "" :=
    hc.receipt.isOff_iff
  have hbase : s.hasItems ((s.component item).body.get? "base_signatures") = true ↔ c.baseSignatures ≠ [] :=
    hr.hasItems hc.base
  unfold Script.checkMaterial at h
  unfold Component.WellFormed
  rw [hkind] at h
  cases hk : c.kind with
  | user | cosigner =>
    simp only [hk, failIf_ok, not_or, hsignature, hscheme, hbase, not_not, Bool.not_eq_false, hreceipt] at h
    exact h
  | boundedBase =>
    simp only [hk, failIf_ok, not_or, hsignature, hscheme, hbase, ← Bool.not_eq_true, not_not, hreceipt,
      haddress] at h
    exact h
  | other name =>
    rw [hk] at h
    cases h

/-- A plain body that another SDK accepts answers the request. -/
theorem Script.acceptComponents_said (hs : s.Lawful) (hr : s.Reads) (hne : req.requestId ≠ "")
    (hnodup : (req.targets.map (·.targetIndex)).Nodup) {reply : Reply Json} {raw : RawComponentResponse}
    {body : Json} {resp : ComponentResponse} (h : s.acceptComponents req reply = .ok raw)
    (hbody : reply.okBody = some body) (hsaid : SaysComponents body resp) :
    resp.requestId = req.requestId ∧ ComponentsMatch req resp := by
  obtain ⟨⟨data, hdata, hid⟩, -, hkinds⟩ := Script.acceptComponents_ok hs hnodup h
  obtain rfl := Option.some.inj (hbody.symm.trans hdata)
  refine ⟨(hsaid.requestId.isText_iff hne).mp hid, ?_⟩
  obtain ⟨data, hdata, h⟩ := bind_eq_ok.mp h
  obtain rfl := Option.some.inj (hbody.symm.trans (Script.body_ok hdata))
  obtain ⟨components, hvalid, h⟩ := bind_eq_ok.mp h
  obtain ⟨-, h⟩ := seq_eq_ok.mp h
  obtain ⟨-, h⟩ := seq_eq_ok.mp h
  cases h
  obtain ⟨-, hvalid⟩ := seq_eq_ok.mp (mapErr_ok.mp hvalid)
  obtain ⟨bodies, hbodies, hvalid⟩ := bind_eq_ok.mp hvalid
  obtain ⟨claimed, hclaimed, hcomponents⟩ := bind_eq_ok.mp hvalid
  cases hcomponents
  obtain ⟨items, hitems, hall⟩ := hsaid.components
  rw [hitems] at hbodies
  obtain rfl := hr.componentItems hbodies
  have hkinds' : resp.kinds.Perm req.kinds := by
    rw [RawComponentResponse.kinds, Script.componentKinds hr hall] at hkinds
    exact hkinds
  refine (componentsMatch_iff hnodup).mpr ⟨?_, fun c hc => ?_, hkinds'⟩
  · rw [← ComponentResponse.keys_kinds]
    exact (hkinds'.map Prod.fst).nodup_iff.mpr (by rwa [ComponentRequest.keys_kinds])
  · obtain ⟨item, hitem, hsaid⟩ := exists_of_forall₂' hall c hc
    obtain ⟨k, claimed', hcheck⟩ := claimAll_each hclaimed (List.mem_map_of_mem hitem)
    obtain ⟨-, hcheck⟩ := seq_eq_ok.mp hcheck
    obtain ⟨-, hcheck⟩ := seq_eq_ok.mp hcheck
    obtain ⟨-, hcheck⟩ := seq_eq_ok.mp hcheck
    exact Script.checkMaterial_said hr hsaid hcheck

/-- A plain assembly response that another SDK accepts is a signed group. -/
theorem Script.acceptAssembly_said (hr : s.Reads) {req : RawAssemblyRequest} {reply : Reply Json} {body : Json}
    {resp : AssemblyResponse} (h : s.acceptAssembly req reply = .ok body) (hsaid : SaysAssembly body resp)
    (hid : ValidRequestId req.requestId) :
    (resp.requestId ≠ "" ∧ ValidRequestId resp.requestId) ∧ SignedGroupOk resp.signedGroup ∧
      body.get? "signed_group" = some (.arr (resp.signedGroup.map .str)) := by
  obtain ⟨data, -, h⟩ := bind_eq_ok.mp h
  obtain ⟨_, hvalid, h⟩ := bind_eq_ok.mp h
  obtain ⟨hsame, h⟩ := seq_eq_ok.mp h
  cases h
  obtain ⟨hgiven, hvalid⟩ := seq_eq_ok.mp (mapErr_ok.mp hvalid)
  obtain ⟨hcheck, hvalid⟩ := seq_eq_ok.mp hvalid
  obtain ⟨items, hitems, hfull⟩ := bind_eq_ok.mp hvalid
  rw [failIf_ok, hsaid.requestId.isOff_iff] at hgiven
  rw [failIf_ok, not_and, Bool.not_eq_false] at hsame
  obtain ⟨rfl, hne⟩ := hr.groupItems hsaid.signedGroup hitems
  refine ⟨⟨hgiven, hr.assemblyId hsaid.requestId hgiven hcheck (fun hc => ?_) hid⟩, ⟨hne, fun t ht => ?_⟩, ?_⟩
  · have htext := hsame hc
    by_cases hempty : req.requestId = ""
    · rcases hsaid.requestId with hv | ⟨-, hnone⟩
      · rw [hv] at htext
        simpa [isText] using htext
      · exact absurd hnone hgiven
    · exact (hsaid.requestId.isText_iff hempty).mp htext
  · obtain ⟨j, hj⟩ := List.mem_iff_getElem?.mp ht
    have hcheck := forEach_ok.mp hfull j (.str t) (by rw [List.getElem?_map, hj]; rfl)
    simpa [Json.truthy] using hcheck
  · rcases hsaid.signedGroup with hv | ⟨-, hnone⟩
    · exact hv
    · exact absurd hnone hne

end Reads

theorem hasTexts_iff {hasItems : Option Json → Bool} (harr : ∀ xs, hasItems (some (.arr xs)) = !xs.isEmpty)
    (hnone : hasItems none = false) (hnull : hasItems (some .null) = false) {v : Option Json}
    {texts : List String} (h : SaysTexts v texts) : hasItems v = true ↔ texts ≠ [] := by
  rcases h with rfl | ⟨rfl | rfl, rfl⟩
  · rw [harr]
    simp
  · simp [hnone]
  · simp [hnull]

namespace Python

theorem reads_script (env : Env) (conv : Coercions) : (script env conv).Reads where
  index _ := rfl
  hasItems h := hasTexts_iff (fun xs => by simp [script, isOff, Json.truthy]) rfl rfl h
  componentItems h := by
    obtain ⟨-, h⟩ := seq_eq_ok.mp h
    exact (Except.ok.inj h).symm
  sign {req _ body resp} h hsaid := by
    obtain ⟨data, -, h⟩ := bind_eq_ok.mp h
    obtain ⟨-, h⟩ := seq_eq_ok.mp h
    obtain ⟨herror, h⟩ := seq_eq_ok.mp h
    obtain ⟨signed, hsigned, h⟩ := bind_eq_ok.mp h
    obtain ⟨hslots, h⟩ := seq_eq_ok.mp h
    cases h
    have hnone : bodyError env false body = none := by
      rw [checkSome_ok] at herror
      cases hbody : bodyError env false body with
      | none => rfl
      | some text => cases herror text hbody
    refine ⟨(hsaid.error.bodyError rfl).mp hnone, ?_⟩
    · have htexts : signed = resp.signed.map .str := by
        rcases hsaid.signed with hv | ⟨hv | hv, hnone⟩
        · rw [hv] at hsigned
          exact (Except.ok.inj hsigned).symm
        · rw [hv] at hsigned
          cases hsigned
          rw [hnone]
          rfl
        · rw [hv] at hsigned
          cases hsigned
      rw [htexts] at hslots
      exact signedOk_texts ((validateGroupSignResponse_ok fun _ _ => rfl).mp hslots)
  slot {body resp} hsaid i := by
    show slot body i = _
    unfold slot
    rcases hsaid.signed with hv | ⟨hv | hv, hnone⟩
    · rw [hv]
      exact List.getElem?_map ..
    · rw [hv, hnone]
      rfl
    · rw [hv, hnone]
      rfl
  groupItems {v texts items} hsaid h := by
    obtain ⟨hon, h⟩ := seq_eq_ok.mp h
    rw [failIf_ok] at hon
    rcases hsaid with rfl | ⟨rfl | rfl, rfl⟩
    · refine ⟨(Except.ok.inj h).symm, fun hnil => hon ?_⟩
      rw [hnil]
      rfl
    · exact absurd rfl hon
    · exact absurd rfl hon
  assemblyId _ _ _ hsame hid := hsame rfl ▸ hid

end Python

namespace TypeScript

/-- The loop over the slots behind those of the requests. -/
theorem checkDummies_ok {conv : Coercions} {xs : List Json} : ∀ {fuel i : ℕ}, xs.length < i + fuel →
    checkDummies conv (.arr xs) fuel i = .ok () → ∀ v ∈ xs.drop i, v.truthy true = true
  | 0, i, hfuel, _ => by
    rw [List.drop_of_length_le (by omega)]
    simp
  | fuel + 1, i, hfuel, h => by
    obtain ⟨more, hmore, h⟩ := bind_eq_ok.mp h
    cases hmore
    by_cases hi : i < xs.length
    · rw [if_neg (by simp [hi])] at h
      obtain ⟨hon, h⟩ := seq_eq_ok.mp h
      rw [List.drop_eq_getElem_cons hi, List.forall_mem_cons]
      refine ⟨?_, checkDummies_ok (by omega) h⟩
      rw [failIf_ok, element, List.getElem?_eq_getElem hi] at hon
      simpa [isOff] using hon
    · rw [List.drop_of_length_le (by omega)]
      simp

theorem validateSigned_ok {env : Env} {conv : Coercions} {requests : List SignRequest} {xs : List Json}
    (h : validateSigned env conv requests (.arr xs) = .ok ()) :
    SignedOk (fun v : Json => !v.truthy true) requests xs := by
  obtain ⟨short, hshort, h⟩ := bind_eq_ok.mp h
  cases hshort
  obtain ⟨hlen, h⟩ := seq_eq_ok.mp h
  obtain ⟨hslots, hrest⟩ := seq_eq_ok.mp h
  rw [failIf_ok, decide_eq_true_eq, not_lt] at hlen
  refine ⟨hlen, fun j r hr hforeign => ?_, fun v hv => ?_⟩
  · have hslot := forEach_ok.mp hslots j r hr
    rw [failIf_ok, not_and, Bool.not_eq_true, Nat.zero_add] at hslot
    exact hslot hforeign
  · have htrue := checkDummies_ok (Nat.lt_add_left requests.length (Nat.lt_succ_self xs.length)) hrest v hv
    simp [htrue]

theorem reads_script (env : Env) (conv : Coercions) : (script env conv).Reads where
  index _ := rfl
  hasItems h := hasTexts_iff (fun _ => rfl) rfl rfl h
  componentItems {xs _} h := by
    cases xs with
    | nil => cases h
    | cons x xs => exact (Except.ok.inj h).symm
  sign {req _ body resp} h hsaid := by
    obtain ⟨data, -, h⟩ := bind_eq_ok.mp h
    obtain ⟨-, h⟩ := seq_eq_ok.mp h
    obtain ⟨herror, h⟩ := seq_eq_ok.mp h
    obtain ⟨hslots, h⟩ := seq_eq_ok.mp h
    cases h
    have hnone : bodyError env true body = none := by
      rw [checkSome_ok] at herror
      cases hbody : bodyError env true body with
      | none => rfl
      | some text => cases herror text hbody
    refine ⟨(hsaid.error.bodyError rfl).mp hnone, ?_⟩
    · have htexts : (coalesce (body.get? "signed") none).getD (.arr []) = .arr (resp.signed.map .str) := by
        rcases hsaid.signed with hv | ⟨hv | hv, hnone⟩
        · rw [hv]
          rfl
        · rw [hv, hnone]
          rfl
        · rw [hv, hnone]
          rfl
      rw [htexts] at hslots
      exact signedOk_texts (validateSigned_ok hslots)
  slot {body resp} hsaid i := by
    show slot body i = _
    unfold slot
    rcases hsaid.signed with hv | ⟨hv | hv, hnone⟩
    · rw [hv]
      exact List.getElem?_map ..
    · rw [hv, hnone]
      rfl
    · rw [hv, hnone]
      rfl
  groupItems {v texts items} hsaid h := by
    rcases hsaid with rfl | ⟨rfl | rfl, rfl⟩
    · cases texts with
      | nil => cases h
      | cons t texts => exact ⟨(Except.ok.inj h).symm, List.cons_ne_nil _ _⟩
    · cases h
    · cases h
  assemblyId {v id _} hsaid hne hcheck _ _ := by
    rcases hsaid with rfl | ⟨-, hnone⟩
    · exact validateSignRequestId_ok.mp hcheck
    · exact absurd hnone hne

end TypeScript

/-! ### Where the bodies are plain -/

section Plain

variable {env : Env} {L : Language} {R : RawAnswers} {decode : Decoders} {s : Script} {frame : ComponentFrame}
  {targets : List GuardedSignTarget} {client user : Client} {opts : GuardedSignOptions}

/-- A plain body that another SDK accepts answers Go's request too. -/
theorem answered_of_plain (hs : s.Lawful) (hr : s.Reads) (hd : s.dialect = L.dialect env)
    (hp : PlainBodies R decode) {kind : ComponentTargetKind} {key : String} {indices : List ℤ}
    {raw : RawComponentResponse}
    (h : exec R.oracle (s.requestComponents client
      (componentRequestForIndices s.dialect frame kind key indices)) = .ok raw) :
    ∃ resp, Answered (R.decoded decode) client
      (componentRequestForIndices (Go.dialect env) frame kind key indices) resp := by
  obtain ⟨bytes, hids, hvalid, hacc⟩ := (Script.exec_requestComponents_ok rfl).mp h
  rw [hd] at hids hvalid hacc
  obtain ⟨hasArgs, hok⟩ := (L.lawful_dialect env).calls.componentRequest hvalid
  have hnodup := hok.nodup.of_append_left
  obtain ⟨⟨body, hbody, -⟩, -, -⟩ := Script.acceptComponents_ok hs hnodup hacc
  obtain ⟨resp, hdecode, hsaid⟩ := hp.components _ body hbody
  obtain ⟨hid, hmatch⟩ := Script.acceptComponents_said hs hr (newSignRequestId_ne_empty bytes.val) hnodup hacc
    hbody hsaid
  rw [purpose_componentRequestForIndices (g := Go.dialect env)] at hids hbody
  have hids' : (R.decoded decode).ids ((componentRequestForIndices (Go.dialect env) frame kind key
      indices).purpose client) = some bytes := hids
  have hmatch' := componentsMatch_of (g := Go.dialect env) hmatch
  refine ⟨resp, ?_, ?_, ⟨hmatch'.nodup, hmatch'.asked, hmatch'.answered, hmatch'.material⟩⟩
  · exact Reply.okBody_decoded.trans (by rw [hbody]; exact hdecode)
  · rw [hids', hid]
    rfl

/-- A plain body of the primary signer that another SDK accepts passes in Go,
but for the checks only Go makes. -/
theorem primaryAnswered_of_plain (hs : s.Lawful) (hr : s.Reads) (hd : s.dialect = L.dialect env)
    (hp : PlainBodies R decode) (hne : opts.primaryTargets ≠ []) {raw : Option Json × List RawPassthroughItem}
    (h : exec R.oracle (s.guardedPrimary opts user targets) = .ok raw)
    (hverified : ∀ resp, ((R.decoded decode).sign user).okBody = some resp →
      PrimaryVerified env opts.groupBytesHex opts.primaryTargets resp) :
    ∃ resp, PrimaryAnswered env (R.decoded decode) opts user targets resp := by
  rcases Script.guardedPrimary_cases hs h with ⟨hnone, -⟩ | ⟨-, out, hout, -⟩
  · exact absurd hnone hne
  obtain ⟨requests, hrequests, hsign, hitems⟩ := Script.requestPrimary_asked hout
  obtain ⟨bytes, -, -, hacc⟩ := Script.exec_signGroup_ok.mp hsign
  have hbody := hs.sign hacc
  obtain ⟨resp, hdecode, hsaid⟩ := hp.sign user out.1 hbody
  obtain ⟨herror, hsigned⟩ := hr.sign hacc hsaid
  have hresp : ((R.decoded decode).sign user).okBody = some resp :=
    Reply.okBody_decoded.trans (by rw [hbody]; exact hdecode)
  refine ⟨resp, hresp, herror, fun requests' hrequests' => ?_, fun p hp => ?_, hverified resp hresp⟩
  · rw [hd] at hrequests
    obtain ⟨requests'', hrequests'', hsame⟩ := primaryEntries_go hrequests
    rw [hrequests'] at hrequests''
    cases hrequests''
    exact hsigned.same hsame
  · -- the slot is forwarded, hence not empty
    have hindex : p.targetIndex ∈ sortIndices (opts.primaryTargets.map (·.targetIndex)) :=
      (sortIndices_perm _).mem_iff.mpr (List.mem_map_of_mem hp)
    obtain ⟨item, -, hitem⟩ := exists_of_forall₂ (mapEach_forall₂.mp hitems) p.targetIndex hindex
    obtain ⟨hon, -⟩ := seq_eq_ok.mp hitem
    rw [failIf_ok, hr.slot hsaid] at hon
    rw [List.getD_eq_getElem?_getD]
    cases hslot : resp.signed[p.targetIndex.toNat]? with
    | none => simp [hslot, isOff] at hon
    | some text => simpa [hslot, isOff, Json.truthy] using hon

/-- A plain response of the assembler that another SDK accepts passes in Go,
but for the checks only Go makes. -/
theorem assembled_of_plain (hr : s.Reads) (hp : PlainBodies R decode) {req : RawAssemblyRequest} {body : Json}
    (h : exec R.oracle (s.requestAssemble user req) = .ok body) (hid : ValidRequestId req.requestId)
    (hverified : ∀ resp, ((R.decoded decode).assemble user).okBody = some resp →
      AssembledVerified env opts.groupBytesHex resp) :
    ∃ resp, Assembled env R decode opts.groupBytesHex user resp := by
  obtain ⟨id, hids, -, hacc⟩ := Script.exec_requestAssemble_ok.mp h
  have hraw : (R.assemble user).okBody = some body := Script.acceptAssembly_body hacc
  obtain ⟨resp, hdecode, hsaid⟩ := hp.assemble user body hraw
  have hresp : ((R.decoded decode).assemble user).okBody = some resp :=
    Reply.okBody_decoded.trans (by rw [hraw]; exact hdecode)
  obtain ⟨hidOk, hgroup, hsame⟩ := Script.acceptAssembly_said hr hacc hsaid ((Answers.idFor_valid hids).mpr hid)
  refine ⟨resp, hresp, hidOk, hgroup, hverified resp hresp, fun other hother => ?_⟩
  rw [Option.some.inj (hother.symm.trans hraw)]
  exact hsame

/-- Where the bodies are plain, Go asks three things more than another SDK. -/
theorem goServed_iff (hs : s.Lawful) (hr : s.Reads) (hd : s.dialect = L.dialect env) (hp : PlainBodies R decode)
    {res : RawSignResult} (h : exec R.oracle (s.signGuardedGroup opts) = .ok res) :
    GoServed env R decode opts ↔ GoAccepts env (R.decoded decode) opts := by
  obtain ⟨⟨user, targets⟩, hprelude, h⟩ := exec_bind_ok.mp h
  obtain ⟨raws, huser, h⟩ := exec_bind_ok.mp h
  obtain ⟨⟨rawPrimary, rawItems⟩, hprimary, h⟩ := exec_bind_ok.mp h
  obtain ⟨raw, hclosing, -⟩ := exec_bind_ok.mp h
  obtain ⟨hcosigned, material, -, hassemble⟩ := Script.closing_asked hclosing
  rw [exec_lift, hd] at hprelude
  obtain ⟨hclient, rfl, -⟩ := guardedPrelude_ok (guardedPrelude_go hprelude)
  constructor
  · rintro ⟨hid, hserves⟩
    obtain ⟨-, hprimary, -, hassembled⟩ := hserves user hclient
    refine ⟨hid, fun hne user' resp hu hresp => ?_, fun user' resp hu hresp => ?_⟩
    · obtain rfl := Option.some.inj (hu.symm.trans hclient)
      obtain ⟨resp', hanswered⟩ := hprimary hne
      obtain rfl := Option.some.inj (hresp.symm.trans hanswered.body)
      exact hanswered.verified
    · obtain rfl := Option.some.inj (hu.symm.trans hclient)
      obtain ⟨resp', hanswered⟩ := hassembled
      obtain rfl := Option.some.inj (hresp.symm.trans hanswered.body)
      exact hanswered.verified
  · rintro ⟨hid, hverified, hassembled⟩
    refine ⟨hid, fun user' hu => ?_⟩
    obtain rfl := Option.some.inj (hu.symm.trans hclient)
    refine ⟨fun p hm => ?_, fun hne => ?_, fun resolved hres g hg client hc => ?_, ?_⟩
    · obtain ⟨raw, -, hraw⟩ := exists_of_forall₂ (exec_collect_ok.mp huser) p
        ((userGroups_perm s.dialect (Go.dialect env) _).mem_iff.mpr hm)
      exact answered_of_plain hs hr hd hp hraw
    · exact primaryAnswered_of_plain hs hr hd hp hne hprimary fun resp => hverified hne user' resp hu
    · obtain ⟨resolved', hgo, hasked⟩ := cosignerPhase_asked hs hd hcosigned
      obtain rfl := Except.ok.inj (hres.symm.trans hgo)
      obtain ⟨client', raw, hc', hraw⟩ := hasked g hg
      obtain rfl := Option.some.inj (hc.symm.trans hc')
      exact answered_of_plain hs hr hd hp hraw
    · exact assembled_of_plain hr hp hassemble hid fun resp => hassembled user' resp hu

end Plain

/-! ### Bodies with the types of the wire -/

theorem textOf_said {v : Option Json} {text : String} (h : textOf v = some text) : SaysText v text := by
  cases v with
  | none => exact Or.inr ⟨Or.inl rfl, (Option.some.inj h).symm⟩
  | some v =>
    cases v with
    | str s => exact Or.inl (by rw [Option.some.inj h])
    | _ => cases h

theorem textsOf_said {v : Option Json} {ss : List String} (h : textsOf v = some ss) : SaysTexts v ss := by
  cases v with
  | none => exact Or.inr ⟨Or.inl rfl, (Option.some.inj h).symm⟩
  | some v =>
    cases v with
    | arr xs => exact Or.inl (by rw [texts_some h])
    | _ => cases h

/-- A component with the members a guarded position has, of their types. -/
def Component.ofJson? (body : Json) : Option Component :=
  match body.get? "target_index", textOf (body.get? "kind") with
  | some (.int i), some _ => do
    let signature ← textOf (body.get? "signature")
    let scheme ← textOf (body.get? "signature_scheme")
    let address ← textOf (body.get? "auth_address")
    let base ← textsOf (body.get? "base_signatures")
    let receipt ← textOf (body.get? "assembly_receipt")
    pure {
      targetIndex := i
      kind := componentKind (body.get? "kind")
      signature := signature
      signatureScheme := scheme
      authAddress := address
      baseSignatures := base
      assemblyReceipt := receipt }
  | _, _ => none

def Component.listOfJson? : List Json → Option (List Component)
  | [] => some []
  | x :: xs => (Component.ofJson? x).bind fun c => (Component.listOfJson? xs).map (c :: ·)

def ComponentResponse.ofJson? (body : Json) : Option ComponentResponse :=
  match body.get? "components" with
  | some (.arr items) =>
    (textOf (body.get? "request_id")).bind fun id =>
      (Component.listOfJson? items).map fun components => { requestId := id, components := components }
  | _ => none

def AssemblyResponse.ofJson? : Json → Option AssemblyResponse
  | .obj members =>
    (textOf ((Json.obj members).get? "request_id")).bind fun id =>
      (textsOf ((Json.obj members).get? "signed_group")).map fun group =>
        { requestId := id, signedGroup := group }
  | _ => none

/-- A decoder that takes the bodies with the types of the wire, and no others. -/
def wireDecoders : Decoders where
  components := ComponentResponse.ofJson?
  sign := GroupSignResponse.ofJson?
  assemble := AssemblyResponse.ofJson?

theorem Component.ofJson?_said {body : Json} {c : Component} (h : Component.ofJson? body = some c) :
    SaysComponent body c := by
  unfold Component.ofJson? at h
  split at h
  · rename_i hindex hkind
    simp only [Option.bind_eq_bind, Option.bind_eq_some_iff, Option.pure_def, Option.some.injEq] at h
    obtain ⟨signature, hsignature, scheme, hscheme, address, haddress, base, hbase, receipt, hreceipt, rfl⟩ := h
    exact ⟨hindex, rfl, textOf_said hsignature, textOf_said hscheme, textOf_said haddress, textsOf_said hbase,
      textOf_said hreceipt⟩
  · cases h

theorem Component.listOfJson?_said : ∀ {items : List Json} {components : List Component},
    Component.listOfJson? items = some components → List.Forall₂ SaysComponent items components
  | [], components, h => by
    cases h
    exact .nil
  | x :: xs, components, h => by
    obtain ⟨c, hc, h⟩ := Option.bind_eq_some_iff.mp h
    obtain ⟨cs, hcs, rfl⟩ := Option.map_eq_some_iff.mp h
    exact .cons (Component.ofJson?_said hc) (Component.listOfJson?_said hcs)

theorem ComponentResponse.ofJson?_said {body : Json} {resp : ComponentResponse}
    (h : ComponentResponse.ofJson? body = some resp) : SaysComponents body resp := by
  unfold ComponentResponse.ofJson? at h
  split at h
  · rename_i items hitems
    obtain ⟨id, hid, h⟩ := Option.bind_eq_some_iff.mp h
    obtain ⟨components, hcomponents, rfl⟩ := Option.map_eq_some_iff.mp h
    exact ⟨textOf_said hid, items, hitems, Component.listOfJson?_said hcomponents⟩
  · cases h

theorem GroupSignResponse.ofJson?_said {body : Json} {resp : GroupSignResponse}
    (h : GroupSignResponse.ofJson? body = some resp) : SaysSign body resp := by
  cases body with
  | obj members =>
    obtain ⟨signed, hsigned, h⟩ := Option.bind_eq_some_iff.mp h
    obtain ⟨error, herror, rfl⟩ := Option.map_eq_some_iff.mp h
    exact ⟨textsOf_said hsigned, textOf_said herror⟩
  | _ => cases h

theorem AssemblyResponse.ofJson?_said {body : Json} {resp : AssemblyResponse}
    (h : AssemblyResponse.ofJson? body = some resp) : SaysAssembly body resp := by
  cases body with
  | obj members =>
    obtain ⟨id, hid, h⟩ := Option.bind_eq_some_iff.mp h
    obtain ⟨group, hgroup, rfl⟩ := Option.map_eq_some_iff.mp h
    exact ⟨textOf_said hid, textsOf_said hgroup⟩
  | _ => cases h

/-- Bodies with the types of the wire are plain. -/
theorem plainBodies_wire {R : RawAnswers}
    (hcomponents : ∀ purpose body, (R.components purpose).okBody = some body →
      (ComponentResponse.ofJson? body).isSome = true)
    (hsign : ∀ client body, (R.sign client).okBody = some body → (GroupSignResponse.ofJson? body).isSome = true)
    (hassemble : ∀ client body, (R.assemble client).okBody = some body →
      (AssemblyResponse.ofJson? body).isSome = true) : PlainBodies R wireDecoders where
  components purpose body hbody := by
    obtain ⟨resp, hresp⟩ := Option.isSome_iff_exists.mp (hcomponents purpose body hbody)
    exact ⟨resp, hresp, ComponentResponse.ofJson?_said hresp⟩
  sign client body hbody := by
    obtain ⟨resp, hresp⟩ := Option.isSome_iff_exists.mp (hsign client body hbody)
    exact ⟨resp, hresp, GroupSignResponse.ofJson?_said hresp⟩
  assemble client body hbody := by
    obtain ⟨resp, hresp⟩ := Option.isSome_iff_exists.mp (hassemble client body hbody)
    exact ⟨resp, hresp, AssemblyResponse.ofJson?_said hresp⟩

/-! ### The comparison -/

/-- Given the same responses, Go ends with the group another SDK returned
exactly where they serve Go: where Go can read them, and they pass Go's
checks. Where Go reads in them what they say, that leaves the id of the
assembly, the primary signer's signatures and the assembled group. -/
theorem guarded_agrees (env : Env) (conv : Coercions) (R : RawAnswers) (decode : Decoders)
    (opts : GuardedSignOptions) (s : Script)
    (hs : s = Python.script env conv ∨ s = TypeScript.script env conv) (res : RawSignResult)
    (h : exec R.oracle (s.signGuardedGroup opts) = .ok res) :
    (SameGroup env R decode opts res ↔ GoServed env R decode opts) ∧
      (PlainBodies R decode → (GoServed env R decode opts ↔ GoAccepts env (R.decoded decode) opts)) := by
  rcases hs with rfl | rfl
  · have hd : (Python.script env conv).dialect = Language.python.dialect env := rfl
    exact ⟨sameGroup_iff (Python.lawful_script env conv) hd h,
      fun hp => goServed_iff (Python.lawful_script env conv) (Python.reads_script env conv) hd hp h⟩
  · have hd : (TypeScript.script env conv).dialect = Language.typescript.dialect env := rfl
    exact ⟨sameGroup_iff (TypeScript.lawful_script env conv) hd h,
      fun hp => goServed_iff (TypeScript.lawful_script env conv) (TypeScript.reads_script env conv) hd hp h⟩

namespace Demo

/-- The kind of component that is asked for. -/
def kindOf : Purpose → ComponentTargetKind
  | .user _ => .user
  | _ => .cosigner

def guardedOptions : GuardedSignOptions where
  userClient := some ⟨0⟩
  cosigner := { client := some ⟨1⟩, componentKey := "cosigner-key" }
  groupBytesHex := [paymentHex]
  targets := [{ targetIndex := 0, guardedAccount := payer, logicSigResources := some usage }]

/-- Two transactions for one. -/
def doubled : List String := [signedPaymentHex, signedPaymentHex]

/-- Parties that serve the payer's only target over JSON. The components are
for position `index`; the assembler returns `group`. -/
def jsonAnswers (index : Json) (group : List String) : RawAnswers where
  keys _ _ := .ok none
  ids _ := some zeroRandom
  plan _ := .http 200 "OK" "" none none
  components purpose := .http 200 "OK" "" none (some (componentsBody (newSignRequestId zeroRandom.val) index
    (if kindOf purpose = .user then "user" else "cosigner")))
  sign _ := .http 200 "OK" "" none none
  assemble _ := .http 200 "OK" "" none (some (.obj [("request_id", .str (newSignRequestId zeroRandom.val)),
    ("signed_group", .arr (group.map .str))]))
  order groups := ⟨groups, .refl _⟩

noncomputable def python : Script := Python.script env coercions

noncomputable def typescript : Script := TypeScript.script env coercions

/-- The group another SDK returns, if it does. -/
noncomputable def scriptSigned (s : Script) (R : RawAnswers) : Option (List String) :=
  (exec R.oracle (s.signGuardedGroup guardedOptions)).toOption.bind fun res => textsOf (some res.signedGroup)

/-- The group Go returns, if it does. -/
noncomputable def goSigned (R : RawAnswers) : Option (List String) :=
  (exec (R.decoded wireDecoders).oracle (signGuardedGroup (Go.dialect env) guardedOptions)).toOption.map
    (·.signedGroup)

theorem scriptSigned_some (s : Script) (R : RawAnswers) (group : List String)
    (h : scriptSigned s R = some group) : ∃ res, exec R.oracle (s.signGuardedGroup guardedOptions) = .ok res ∧
      res.signedGroup = .arr (group.map .str) := by
  obtain ⟨res, hres, htexts⟩ := Option.bind_eq_some_iff.mp h
  refine ⟨res, ?_, ?_⟩
  · cases hout : exec R.oracle (s.signGuardedGroup guardedOptions) with
    | error e =>
      rw [hout] at hres
      cases hres
    | ok res' =>
      rw [hout] at hres
      exact congrArg _ (Option.some.inj hres)
  · rcases textsOf_said htexts with hv | ⟨hv | hv, -⟩
    · exact Option.some.inj hv
    · cases hv
    · rw [Option.some.inj hv] at htexts
      cases htexts

theorem goSigned_none {R : RawAnswers} (h : goSigned R = none) (res : GuardedSignResult) :
    exec (R.decoded wireDecoders).oracle (signGuardedGroup (Go.dialect env) guardedOptions) ≠ .ok res := by
  intro hres
  rw [goSigned, hres] at h
  cases h

/-- One transaction for one. -/
def served : RawAnswers := jsonAnswers (.int 0) [signedPaymentHex]

theorem served_plain : PlainBodies served wireDecoders := by
  refine plainBodies_wire (fun purpose body hbody => ?_) (fun client body hbody => ?_)
    fun client body hbody => ?_
  · cases hbody
    by_cases hk : kindOf purpose = .user <;> simp only [hk] <;> rfl
  · cases hbody
  · cases hbody
    rfl

end Demo

/-- Python signs the payment, and Go does with the same responses. -/
theorem guarded_agrees_payment :
    ∃ res, exec Demo.served.oracle (Demo.python.signGuardedGroup Demo.guardedOptions) = .ok res ∧
      (SameGroup Demo.env Demo.served wireDecoders Demo.guardedOptions res ↔
        GoServed Demo.env Demo.served wireDecoders Demo.guardedOptions) ∧
      (GoServed Demo.env Demo.served wireDecoders Demo.guardedOptions ↔
        GoAccepts Demo.env (Demo.served.decoded wireDecoders) Demo.guardedOptions) := by
  obtain ⟨res, hres, -⟩ := Demo.scriptSigned_some Demo.python Demo.served [Demo.signedPaymentHex]
    (by decide +kernel)
  obtain ⟨hsame, hplain⟩ := guarded_agrees Demo.env Demo.coercions Demo.served wireDecoders Demo.guardedOptions
    Demo.python (Or.inl rfl) res hres
  exact ⟨res, hres, hsame, hplain Demo.served_plain⟩

/-- The assembler returns two transactions for one: Python and TypeScript
return both, Go refuses. A component is for position `false`, or `0.0`: one of
them takes it for position 0, Go cannot read it. -/
theorem Demo.guarded_disagrees :
    ((∃ res, exec (jsonAnswers (.int 0) doubled).oracle (python.signGuardedGroup guardedOptions) = .ok res ∧
        res.signedGroup = .arr (doubled.map .str)) ∧
      (∃ res, exec (jsonAnswers (.int 0) doubled).oracle (typescript.signGuardedGroup guardedOptions) = .ok res ∧
        res.signedGroup = .arr (doubled.map .str)) ∧
      ∀ res, exec ((jsonAnswers (.int 0) doubled).decoded wireDecoders).oracle
        (signGuardedGroup (Go.dialect env) guardedOptions) ≠ .ok res) ∧
    ((∃ res, exec (jsonAnswers (.bool false) [signedPaymentHex]).oracle
        (python.signGuardedGroup guardedOptions) = .ok res ∧ res.signedGroup = .arr [.str signedPaymentHex]) ∧
      ∀ res, exec ((jsonAnswers (.bool false) [signedPaymentHex]).decoded wireDecoders).oracle
        (signGuardedGroup (Go.dialect env) guardedOptions) ≠ .ok res) ∧
    ((∃ res, exec (jsonAnswers (.float 0) [signedPaymentHex]).oracle
        (typescript.signGuardedGroup guardedOptions) = .ok res ∧ res.signedGroup = .arr [.str signedPaymentHex]) ∧
      ∀ res, exec ((jsonAnswers (.float 0) [signedPaymentHex]).decoded wireDecoders).oracle
        (signGuardedGroup (Go.dialect env) guardedOptions) ≠ .ok res) := by
  refine ⟨⟨?_, ?_, goSigned_none (by decide +kernel)⟩, ⟨?_, goSigned_none (by decide +kernel)⟩, ?_,
    goSigned_none (by decide +kernel)⟩
  · exact scriptSigned_some python _ doubled (by decide +kernel)
  · exact scriptSigned_some typescript _ doubled (by decide +kernel)
  · exact scriptSigned_some python _ [signedPaymentHex] (by decide +kernel)
  · exact scriptSigned_some typescript _ [signedPaymentHex] (by decide +kernel)

end AplaneSdk
