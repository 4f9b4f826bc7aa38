/-
# The revision of the cached keys

`ListKeysIfKeysetChanged` serves the cache where its revision is the one
`/status` reports. The revision is written after the map, in a critical section
of its own, and it is the one `/status` reported before `/keys` was asked: a
store of another call in between, or a change of the key set, puts the label of
one revision on the keys of another. Without either, whatever is served from
the cache for a revision is the key set the signer held at it.

Key definitions: `revisionMonitor`, `undisturbed`, `Labelled`.
Key theorems: `obeys_call`, `Labelled.thread`, `cachedKeys_held`.
-/
import AplaneSdk.KeyCache

namespace AplaneSdk

open Interaction Interaction.Prog

/-! ### What each call does by itself -/

/-- What a call has seen: the revision of its last `/status`, the keys of the
`/keys` body it got since, and whether it has stored them just now. -/
structure RevisionView where
  status : Option ℕ := none
  body : Option (List KeyInfo) := none
  stored : Bool := false

/-- A call stores what it fetched, asks the cache for the revision it was told,
and labels with that revision what it has stored. -/
def revisionMonitor : Monitor inventory RevisionView where
  next v
    | ⟨.status, reply⟩ => { status := (Reply.okBody reply).map (·.keysetRevision) }
    | ⟨.keys, reply⟩ => { v with body := (Reply.okBody reply).map (·.keys), stored := false }
    | ⟨.storeKeys _, _⟩ => { v with stored := true }
    | _ => { v with stored := false }
  allows v e := match e.op with
    | .storeKeys keys => v.body = some keys
    | .cachedKeysForRevision r => v.status = some r
    | .cacheKeysRevision r => v.status = some r ∧ v.stored = true ∧ v.body.isSome = true
    | _ => True

section Obeys

variable {α : Type} {v : RevisionView} (env : Env)

theorem obeys_getKeysResponse : Obeys revisionMonitor v (Go.getKeysResponse env) := by
  refine Go.obeys_fetch_bind fun reply => ⟨trivial, trivial, ?_⟩
  split
  · exact obeys_done _
  · refine obeys_lift_bind fun body hbody => ?_
    refine obeys_query_bind fun _ => ⟨?_, obeys_done _⟩
    exact congrArg (Option.map (·.keys)) (decodeReply_ok.mp hbody)

theorem obeys_fetchKeys : Obeys revisionMonitor v (Go.fetchKeys env) := by
  refine obeys_bind (obeys_mapError (obeys_getKeysResponse env)) fun t result _ => ?_
  split <;> exact obeys_done _

/-- The view after a fetch: the status of before, and the stored body. -/
theorem after_fetched {t : Trace inventory} {keys : List KeyInfo} (h : Go.Fetched t keys) :
    revisionMonitor.after v t = { status := v.status, body := some keys, stored := true } := by
  obtain ⟨reply, body, hbody, rfl, rfl⟩ := h
  change ({ v with body := (Reply.okBody reply).map (·.keys), stored := true } : RevisionView) = _
  rw [hbody]
  rfl

theorem obeys_listKeysIfKeysetChanged : Obeys revisionMonitor v (Go.listKeysIfKeysetChanged env) := by
  refine obeys_bind (Go.obeys_fetch_bind fun reply => ⟨trivial, trivial, obeys_done _⟩) fun t st hst => ?_
  obtain ⟨reply, rfl, hbody⟩ := Go.runs_getStatus_ok hst
  have hview : revisionMonitor.after v [⟨.status, reply⟩, ⟨.received, ()⟩] =
      { status := some st.keysetRevision } := by
    change ({ status := (Reply.okBody reply).map (·.keysetRevision) } : RevisionView) = _
    rw [hbody]
    rfl
  rw [hview]
  cases st.signerLocked with
  | true => exact obeys_done _
  | false =>
    refine obeys_query_bind fun cached => ⟨rfl, ?_⟩
    cases cached with
    | some keys => exact obeys_done _
    | none =>
      refine obeys_bind (obeys_fetchKeys env) fun t keys ht => ?_
      rw [after_fetched (Go.runs_fetchKeys_ok ht)]
      exact obeys_query_bind fun _ => ⟨⟨rfl, rfl, rfl⟩, obeys_done _⟩

theorem obeys_resolveAuthAddress (address : String) (lookup : Except String String) :
    Obeys revisionMonitor v (Go.resolveAuthAddress env address lookup) := by
  refine obeys_lift_bind fun authAddr _ => ?_
  refine obeys_bind (obeys_listKeysIfKeysetChanged env) fun t keys _ => ?_
  repeat' split
  all_goals exact obeys_done _

theorem obeys_getKeyInfo (address : String) : Obeys revisionMonitor v (Go.getKeyInfo env address) := by
  refine obeys_query_bind fun cached => ⟨trivial, ?_⟩
  cases cached with
  | some k => exact obeys_done _
  | none =>
    refine obeys_bind (obeys_getKeysResponse env) fun t result _ => ?_
    cases result.locked with
    | true => exact obeys_done _
    | false =>
      refine obeys_query_bind fun stored => ⟨trivial, ?_⟩
      cases stored <;> exact obeys_done _

theorem revisionMonitor_allows_quiet (v : RevisionView) {e : Event inventory}
    (h : CacheOp.quiet e.op = true) : revisionMonitor.allows v e := by
  obtain ⟨o, a⟩ := e
  cases o with
  | status | keys | cachedKeysForRevision r | keyAt address | storeKeys keys | cacheKeysRevision r | clear =>
    cases h
  | _ => exact trivial

theorem obeys_checkRekeyTarget (params : Go.RekeyPrepParams) :
    Obeys revisionMonitor v (Go.checkRekeyTarget env params) := by
  unfold Go.checkRekeyTarget
  split
  · refine obeys_query_bind fun held => ⟨trivial, ?_⟩
    cases held <;> exact obeys_done _
  · exact obeys_done _

/-- Every call obeys, from the start. -/
theorem obeys_call (sdk : Go.RekeySdk) : ∀ call : Call, Obeys revisionMonitor {} (call.flow env sdk)
  | .listKeys refresh => by
    refine obeys_bind ?_ fun _ _ _ => obeys_done _
    cases refresh with
    | true => exact obeys_fetchKeys env
    | false =>
      refine obeys_query_bind fun cached => ⟨trivial, ?_⟩
      cases cached with
      | some keys => exact obeys_done _
      | none => exact obeys_fetchKeys env
  | .getKeyInfo address => obeys_bind (obeys_getKeyInfo env address) fun _ _ _ => obeys_done _
  | .listKeysIfKeysetChanged => obeys_bind (obeys_listKeysIfKeysetChanged env) fun _ _ _ => obeys_done _
  | .generateKey keyType parameters => by
    refine obeys_bind ?_ fun _ _ _ => obeys_done _
    refine Go.obeys_fetch_bind fun _ => ⟨trivial, trivial, obeys_lift_bind fun _ _ => ?_⟩
    exact obeys_query_bind fun _ => ⟨trivial, obeys_done _⟩
  | .deleteKey address => by
    refine obeys_bind ?_ fun _ _ _ => obeys_done _
    refine Go.obeys_fetch_bind fun _ => ⟨trivial, trivial, obeys_lift_bind fun _ _ => ?_⟩
    exact obeys_query fun _ => trivial
  | .resolve address lookup =>
    obeys_bind (obeys_resolveAuthAddress env address lookup) fun _ _ _ => obeys_done _
  | .prepareRekey params => by
    refine obeys_bind ?_ fun _ _ _ => obeys_done _
    refine obeys_bind (obeys_buildRekey revisionMonitor_allows_quiet sdk params) fun _ built _ => ?_
    refine obeys_bind (obeys_resolveAuthAddress env _ _) fun _ resolved _ => ?_
    exact obeys_bind (obeys_checkRekeyTarget env params) fun _ _ _ => obeys_done _

theorem obeys_callPool {env : Env} {sdk : Go.RekeySdk} {server : Server} {calls : List Call} {i : ℕ}
    {p : CacheFlow Outcome} (h : (callPool env sdk server calls).threads[i]? = some p) :
    Obeys revisionMonitor {} p := by
  obtain ⟨call, -, rfl⟩ := List.mem_map.mp (List.mem_of_getElem? h)
  exact obeys_call env sdk call

end Obeys

/-- What call `i` has seen. -/
def revisionView (i : ℕ) (ms : List CacheMove) : RevisionView := revisionMonitor.after {} (eventsOf i ms)

section View

variable {i j : ℕ} {ms : List CacheMove}

theorem revisionView_drift (d : ℕ × KeySet) : revisionView i (ms ++ [.drift d]) = revisionView i ms := by
  rw [revisionView, eventsOf_drift]
  rfl

theorem revisionView_self (e : Event inventory) :
    revisionView i (ms ++ [.thread i e]) = revisionMonitor.next (revisionView i ms) e := by
  rw [revisionView, eventsOf_self, Monitor.after_snoc]
  rfl

theorem revisionView_ne (h : j ≠ i) (e : Event inventory) :
    revisionView i (ms ++ [.thread j e]) = revisionView i ms := by
  rw [revisionView, eventsOf_ne h]
  rfl

end View

/-- The signer told the revision `r` in one of these events. -/
def Reported (t : Trace inventory) (r : ℕ) : Prop :=
  ∃ (reply : Reply StatusResponse) (st : StatusResponse),
    (⟨.status, reply⟩ : Event inventory) ∈ t ∧ reply.okBody = some st ∧ st.keysetRevision = r

/-- The revision in a view was told. -/
theorem reported_of_status {r : ℕ} : ∀ (t : Trace inventory) {v : RevisionView},
    (revisionMonitor.after v t).status = some r → v.status = some r ∨ Reported t r
  | [], _, h => Or.inl h
  | e :: t, v, h => by
    rcases reported_of_status t h with h | ⟨reply, st, hmem, hbody, hr⟩
    · obtain ⟨o, a⟩ := e
      cases o with
      | status =>
        obtain ⟨st, hst, hr⟩ := Option.map_eq_some_iff.mp h
        exact Or.inr ⟨a, st, List.mem_cons_self .., hst, hr⟩
      | _ => exact Or.inl h
    · exact Or.inr ⟨reply, st, List.mem_cons_of_mem _ hmem, hbody, hr⟩

/-! ### Runs without interference -/

/-- The call is about to label the cache. -/
def labels (p : CacheFlow Outcome) : Bool :=
  match p.pending with
  | some (.cacheKeysRevision _) => true
  | _ => false

/-- No interference: the key set does not change between the `/status` and the
`/keys` of a call, and between the store and the label of a call no other call
stores keys that differ from the ones to be labelled. -/
def undisturbed (past : List CacheMove) (c : CachePool) : CacheMove → Bool
  | .thread i ⟨.keys, _⟩ => (revisionView i past).status.all (· = c.shared.server.revision)
  | .thread i ⟨.storeKeys keys, _⟩ =>
    (List.range c.threads.length).all fun j => j == i || !c.threads[j]?.any labels ||
      (revisionView j past).body.any fun own =>
        decide ((KeyMap.ofKeys keys).values.Perm (KeyMap.ofKeys own).values)
  | _ => true

/-- What holds of every state such a run reaches. -/
structure Labelled (ms : List CacheMove) (c : CachePool) : Prop where
  /-- A call that was told `r` has the keys of `r`. -/
  fetched : ∀ i r keys, (revisionView i ms).status = some r → (revisionView i ms).body = some keys →
    ∃ ks, c.shared.server.Held r ks ∧ keys.Perm ks.keys
  /-- A call about to label finds its own keys in the cache, or none. -/
  own : ∀ i p keys, c.threads[i]? = some p → labels p = true → (revisionView i ms).body = some keys →
    ∀ m, c.shared.cache.keys = some m → m.values.Perm (KeyMap.ofKeys keys).values
  /-- The label of the cache is right. -/
  label : ∀ r m, c.shared.cache.hit r = some m → ∃ ks, c.shared.server.Held r ks ∧ m.values.Perm ks.keys
  /-- So is what was served. -/
  served : ∀ i r keys, (⟨.cachedKeysForRevision r, some keys⟩ : Event inventory) ∈ eventsOf i ms →
    Reported (eventsOf i ms) r ∧ ∃ ks, c.shared.server.Held r ks ∧ keys.Perm ks.keys

/-- Only `/status` and `/keys` change what a call knows, and only a store marks
it as stored. -/
theorem revisionMonitor_next_quiet {v : RevisionView} {e : Event inventory} (h : CacheOp.quiet e.op = true) :
    revisionMonitor.next v e = { v with stored := false } := by
  obtain ⟨o, a⟩ := e
  cases o with
  | status | keys | cachedKeysForRevision r | keyAt address | storeKeys keys | cacheKeysRevision r | clear =>
    cases h
  | _ => rfl

/-- A call about to label has just stored. -/
theorem stored_of_obeys {v : RevisionView} {p : CacheFlow Outcome} (h : Obeys revisionMonitor v p)
    (hl : labels p = true) : v.stored = true := by
  cases p with
  | done r => cases hl
  | ask o k =>
    cases o with
    | cacheKeysRevision r => exact (h ()).1.2.1
    | _ => cases hl

section Step

variable {ms : List CacheMove} {c : CachePool} {i : ℕ} {e : Event inventory} {s' : CacheState}
  {p : CacheFlow Outcome}

theorem Labelled.fetched_thread (h : Labelled ms c) (hstep : CacheStep true c.shared e s')
    (hguard : undisturbed ms c (.thread i e) = true) (j r : ℕ) (keys : List KeyInfo)
    (hstatus : (revisionView j (ms ++ [.thread i e])).status = some r)
    (hbody : (revisionView j (ms ++ [.thread i e])).body = some keys) :
    ∃ ks, c.shared.server.Held r ks ∧ keys.Perm ks.keys := by
  by_cases hj : i = j
  · subst hj
    rw [revisionView_self] at hstatus hbody
    cases hstep with
    | status reply => cases hbody
    | keys reply hlisted =>
      -- the revision has not changed since the call was told it
      obtain ⟨body, hreply, rfl⟩ := Option.map_eq_some_iff.mp hbody
      have hrev : r = c.shared.server.revision := by
        have hstatus : (revisionView i ms).status = some r := hstatus
        simp only [undisturbed, hstatus, Option.all_some, decide_eq_true_eq] at hguard
        exact hguard
      rw [hrev]
      exact ⟨_, c.shared.server.held_now, hlisted rfl body hreply⟩
    | quiet e hquiet =>
      rw [revisionMonitor_next_quiet hquiet] at hstatus hbody
      exact h.fetched i r keys hstatus hbody
    | _ => exact h.fetched i r keys hstatus hbody
  · rw [revisionView_ne hj] at hstatus hbody
    exact h.fetched j r keys hstatus hbody

/-- The keys a call stored are there until it has labelled them. -/
theorem Labelled.own_thread (h : Labelled ms c) (hstep : CacheStep true c.shared e s')
    (hguard : undisturbed ms c (.thread i e) = true) (hi : i < c.threads.length)
    (hallow : revisionMonitor.allows (revisionView i ms) e)
    (hobeys : Obeys revisionMonitor (revisionView i (ms ++ [.thread i e])) p) (j : ℕ)
    (q : CacheFlow Outcome) (keys : List KeyInfo) (hq : (c.threads.set i p)[j]? = some q)
    (hl : labels q = true) (hbody : (revisionView j (ms ++ [.thread i e])).body = some keys) (m : KeyMap)
    (hm : s'.cache.keys = some m) : m.values.Perm (KeyMap.ofKeys keys).values := by
  by_cases hj : i = j
  · subst hj
    rw [List.getElem?_set_self hi] at hq
    cases Option.some.inj hq
    have hstored := stored_of_obeys hobeys hl
    rw [revisionView_self] at hstored hbody
    cases hstep with
    | store keys' =>
      -- the call has just stored its own keys
      cases Option.some.inj hm
      have hown : (revisionView i ms).body = some keys' := hallow
      rw [show (revisionView i ms).body = some keys from hbody] at hown
      cases Option.some.inj hown
      exact List.Perm.refl _
    | quiet e hquiet =>
      rw [revisionMonitor_next_quiet hquiet] at hstored
      cases hstored
    | _ => cases hstored
  · rw [List.getElem?_set_ne hj] at hq
    rw [revisionView_ne hj] at hbody
    have hsame : c.shared.cache.keys = some m → m.values.Perm (KeyMap.ofKeys keys).values :=
      h.own j q keys hq hl hbody m
    cases hstep with
    | store keys' =>
      cases Option.some.inj hm
      -- the store of another call is of the keys to be labelled
      simp only [undisturbed, List.all_eq_true, List.mem_range] at hguard
      have hother := hguard j (List.getElem?_eq_some_iff.mp hq).1
      rw [hq, hbody] at hother
      simpa [hl, Ne.symm hj] using hother
    | clear => cases hm
    | _ => exact hsame hm

/-- A label is only put on keys of its revision. -/
theorem Labelled.label_thread (h : Labelled ms c) (hstep : CacheStep true c.shared e s')
    (hallow : revisionMonitor.allows (revisionView i ms) e) (hp : c.threads[i]? = some p)
    (hpending : p.pending = some e.op) (r : ℕ) (m : KeyMap) (hm : s'.cache.hit r = some m) :
    ∃ ks, c.shared.server.Held r ks ∧ m.values.Perm ks.keys := by
  cases hstep with
  | store keys => cases hm
  | clear => cases hm
  | label r' =>
    obtain ⟨hstatus, -, hsome⟩ := hallow
    obtain ⟨keys, hbody⟩ := Option.isSome_iff_exists.mp hsome
    simp only [Cache.hit, true_and, Option.ite_none_right_eq_some] at hm
    obtain ⟨rfl, hm⟩ := hm
    have hl : labels p = true := by
      rw [labels, hpending]
    have hown := h.own i p keys hp hl hbody m hm
    obtain ⟨ks, hheld, hperm⟩ := h.fetched i _ keys hstatus hbody
    have hnodup : (keys.map (·.address)).Nodup := (hperm.map _).nodup_iff.mpr ks.nodup
    exact ⟨ks, hheld, hown.trans ((KeyMap.values_ofKeys_perm hnodup).trans hperm)⟩
  | _ => exact h.label r m hm

theorem Labelled.served_thread (h : Labelled ms c) (hstep : CacheStep true c.shared e s')
    (hallow : revisionMonitor.allows (revisionView i ms) e) (j r : ℕ) (keys : List KeyInfo)
    (hmem : (⟨.cachedKeysForRevision r, some keys⟩ : Event inventory) ∈
      eventsOf j (ms ++ [.thread i e])) :
    Reported (eventsOf j (ms ++ [.thread i e])) r ∧ ∃ ks, c.shared.server.Held r ks ∧ keys.Perm ks.keys := by
  have hmono : ∀ {t t' : Trace inventory}, Reported t r → Reported (t ++ t') r := by
    rintro t t' ⟨reply, st, hst, hrest⟩
    exact ⟨reply, st, List.mem_append_left _ hst, hrest⟩
  by_cases hj : i = j
  · subst hj
    rw [eventsOf_self] at hmem ⊢
    rcases List.mem_append.mp hmem with hmem | hmem
    · exact ⟨hmono (h.served i r keys hmem).1, (h.served i r keys hmem).2⟩
    · obtain rfl := List.mem_singleton.mp hmem
      have hreported : Reported (eventsOf i ms) r := by
        rcases reported_of_status _ hallow with hnone | hreported
        · cases hnone
        · exact hreported
      refine ⟨hmono hreported, ?_⟩
      cases hstep with
      | hit r a hlists =>
        cases hhit : c.shared.cache.hit r with
        | none =>
          rw [hhit] at hlists
          cases hlists
        | some m =>
          rw [hhit] at hlists
          obtain ⟨ks, hheld, hperm⟩ := h.label r m hhit
          exact ⟨ks, hheld, (of_decide_eq_true hlists).trans hperm⟩
      | quiet e hquiet => cases hquiet
  · rw [eventsOf_ne hj] at hmem ⊢
    exact h.served j r keys hmem

end Step

/-- Every undisturbed run keeps the label right. -/
theorem labelled_run {env : Env} {sdk : Go.RekeySdk} {server : Server} {calls : List Call}
    {ms : List CacheMove} {c : CachePool}
    (h : Pool.run (cacheMachine true) undisturbed (callPool env sdk server calls) ms = some c) : Labelled ms c := by
  refine Pool.run_induction (P := Labelled) ?_ ?_ h
  · refine ⟨fun _ _ _ hs => ?_, fun i p keys hp hl hb => ?_, fun _ _ hm => ?_, fun _ _ _ hmem => ?_⟩
    · cases hs
    · cases hb
    · cases hm
    · cases hmem
  · intro ms c₁ m c₂ hrun ih hguard hstep
    cases m with
    | drift d =>
      obtain ⟨s, hs, rfl⟩ := (Pool.step_drift (M := cacheMachine true)).mp hstep
      obtain ⟨server', hchange, rfl⟩ := Option.map_eq_some_iff.mp hs
      refine ⟨fun i r keys hs hb => ?_, fun i p keys hp hl hb => ?_, fun r m hm => ?_, fun i r keys hmem => ?_⟩
      · rw [revisionView_drift] at hs hb
        obtain ⟨ks, hheld, hperm⟩ := ih.fetched i r keys hs hb
        exact ⟨ks, Server.held_change hchange hheld, hperm⟩
      · rw [revisionView_drift] at hb
        exact ih.own i p keys hp hl hb
      · obtain ⟨ks, hheld, hperm⟩ := ih.label r m hm
        exact ⟨ks, Server.held_change hchange hheld, hperm⟩
      · rw [eventsOf_drift] at hmem ⊢
        obtain ⟨hreported, ks, hheld, hperm⟩ := ih.served i r keys hmem
        exact ⟨hreported, ks, Server.held_change hchange hheld, hperm⟩
    | thread i e =>
      have hcall : ∀ p, (callPool env sdk server calls).threads[i]? = some p → Obeys revisionMonitor {} p :=
        fun p => obeys_callPool
      have hallow := Pool.step_allowed hcall hrun hstep
      obtain ⟨k, s, hk, hs, rfl⟩ := (Pool.step_thread (M := cacheMachine true)).mp hstep
      have hi := (List.getElem?_eq_some_iff.mp hk).1
      have hcache := cacheStep_of_answer hs
      have hobeys : Obeys revisionMonitor (revisionView i (ms ++ [.thread i e])) (k e.ans) := by
        rw [revisionView_self]
        exact (Pool.thread_obeys hcall hrun hk e.ans).2
      have hserver := hcache.server
      refine ⟨fun j r keys hst hb => ?_, fun j q keys hq hl hb m hm => ?_, fun r m hm => ?_,
        fun j r keys hmem => ?_⟩
      · rw [hserver]
        exact ih.fetched_thread hcache hguard j r keys hst hb
      · exact ih.own_thread hcache hguard hi hallow hobeys j q keys hq hl hb m hm
      · rw [hserver]
        exact ih.label_thread hcache hallow hk rfl r m hm
      · rw [hserver]
        exact ih.served_thread hcache hallow j r keys hmem

/-- **Cached keys are the keys of their revision.** In every undisturbed run,
whatever the cache answers for a revision is what the signer held at it, and so
is what a call of `ListKeysIfKeysetChanged` that was served from the cache
returns. -/
theorem cachedKeys_held (env : Env) (sdk : Go.RekeySdk) (server : Server) (calls : List Call)
    (ms : List CacheMove) (c : CachePool)
    (h : Pool.run (cacheMachine true) undisturbed (callPool env sdk server calls) ms = some c) :
    (∀ i r keys, (⟨.cachedKeysForRevision r, some keys⟩ : Event inventory) ∈ eventsOf i ms →
      Reported (eventsOf i ms) r ∧ ∃ ks, c.shared.server.Held r ks ∧ keys.Perm ks.keys) ∧
    ∀ i keys, calls[i]? = some .listKeysIfKeysetChanged → c.threads[i]? = some (done (.ok (.keys keys))) →
      (∃ r hit, (⟨.cachedKeysForRevision r, some hit⟩ : Event inventory) ∈ eventsOf i ms) →
      ∃ r ks, Reported (eventsOf i ms) r ∧ c.shared.server.Held r ks ∧ keys.Perm ks.keys := by
  have hserved := (labelled_run h).served
  refine ⟨hserved, fun i keys hcall hdone hhit => ?_⟩
  have hthread : (callPool env sdk server calls).threads[i]? =
      some (Call.flow env sdk .listKeysIfKeysetChanged) := by
    rw [callPool, List.getElem?_map, hcall]
    rfl
  obtain ⟨p, hp, hleads⟩ := Pool.run_leads hthread h
  rw [hdone] at hp
  cases Option.some.inj hp
  obtain ⟨keys', t₁, t₂, ht, hrun, hlast⟩ := runs_bind_ok.mp hleads.runs
  obtain ⟨rfl, hkeys⟩ := hlast
  cases hkeys
  rw [List.append_nil] at ht
  obtain ⟨reply, st, -, htrace⟩ := Go.runs_listKeysIfKeysetChanged_ok hrun
  rcases htrace with htrace | ⟨t', ⟨reply', body, -, -, rfl⟩, htrace⟩
  · have hmem : (⟨.cachedKeysForRevision st.keysetRevision, some keys⟩ : Event inventory) ∈ eventsOf i ms := by
      rw [ht, htrace]
      simp
    obtain ⟨hreported, ks, hheld, hperm⟩ := hserved i _ _ hmem
    exact ⟨_, ks, hreported, hheld, hperm⟩
  · -- the call missed the cache
    obtain ⟨r, hit, hmem⟩ := hhit
    rw [ht, htrace] at hmem
    simp at hmem

namespace Demo

def spendingKey : KeyInfo := { address := "A", authorizationKind := "native" }

def secondKey : KeyInfo := { address := "B", authorizationKind := "native" }

def oneKey : KeySet := ⟨[spendingKey], by decide⟩

def twoKeys : KeySet := ⟨[spendingKey, secondKey], by decide⟩

def keyServer : Server := .fresh 1 oneKey

/-- The SDK of these runs builds nothing. -/
def noRekeySdk : Go.RekeySdk where
  makePaymentTxn _ _ _ := .error ""
  rekey t _ := .ok t

def statusAt (r : ℕ) : Reply StatusResponse :=
  .http 200 "OK" "" none (some { signerLocked := false, keysetRevision := r })

def keysOf (keys : List KeyInfo) : Reply KeysResponse :=
  .http 200 "OK" "" none (some { count := keys.length, keys := keys })

/-- Call `i` misses the cache and fills it. -/
def refreshMoves (i r : ℕ) (keys : List KeyInfo) : List CacheMove :=
  [.thread i ⟨.status, statusAt r⟩, .thread i ⟨.received, ()⟩, .thread i ⟨.cachedKeysForRevision r, none⟩,
    .thread i ⟨.keys, keysOf keys⟩, .thread i ⟨.received, ()⟩, .thread i ⟨.storeKeys keys, ()⟩]

/-- Call `i` is served from the cache. -/
def hitMoves (i r : ℕ) (ks : KeySet) : List CacheMove :=
  [.thread i ⟨.status, statusAt r⟩, .thread i ⟨.received, ()⟩,
    .thread i ⟨.cachedKeysForRevision r, some ks.keys⟩]

/-- Two calls, one after the other. -/
def calmRun : List CacheMove :=
  refreshMoves 0 1 oneKey.keys ++ [.thread 0 ⟨.cacheKeysRevision 1, ()⟩] ++ hitMoves 1 1 oneKey

theorem cachedKeys_held_calm : ∃ c, Pool.run (cacheMachine true) undisturbed
    (callPool env noRekeySdk keyServer [.listKeysIfKeysetChanged, .listKeysIfKeysetChanged]) calmRun = some c ∧
    ∃ ks, c.shared.server.Held 1 ks ∧ [spendingKey].Perm ks.keys := by
  have hsome : (Pool.run (cacheMachine true) undisturbed (callPool env noRekeySdk keyServer
      [.listKeysIfKeysetChanged, .listKeysIfKeysetChanged]) calmRun).isSome = true := by decide +kernel
  obtain ⟨c, hc⟩ := Option.isSome_iff_exists.mp hsome
  have hmem : (⟨.cachedKeysForRevision 1, some [spendingKey]⟩ : Event inventory) ∈ eventsOf 1 calmRun :=
    List.mem_of_getElem? (i := 2) rfl
  exact ⟨c, hc, ((cachedKeys_held _ _ _ _ _ c hc).1 1 1 _ hmem).2⟩

/-- The cache is cleared and filled again with the same keys between the store
and the label of a call. -/
def refilledRun : List CacheMove :=
  refreshMoves 0 1 oneKey.keys ++
    [.thread 1 ⟨.delete "Z", .http 200 "OK" "" none none⟩, .thread 1 ⟨.received, ()⟩, .thread 1 ⟨.clear, ()⟩] ++
    refreshMoves 2 1 oneKey.keys ++ [.thread 0 ⟨.cacheKeysRevision 1, ()⟩] ++ hitMoves 3 1 oneKey

example : (Pool.run (cacheMachine true) undisturbed (callPool env noRekeySdk keyServer
    [.listKeysIfKeysetChanged, .deleteKey "Z", .listKeysIfKeysetChanged, .listKeysIfKeysetChanged])
      refilledRun).isSome = true := by decide +kernel

/-- A store of old keys between the store and the label of another call. -/
def staleRun : List CacheMove :=
  [.thread 1 ⟨.keys, keysOf oneKey.keys⟩, .thread 1 ⟨.received, ()⟩, .drift (2, twoKeys)] ++
    refreshMoves 0 2 twoKeys.keys ++
    [.thread 1 ⟨.storeKeys oneKey.keys, ()⟩, .thread 0 ⟨.cacheKeysRevision 2, ()⟩] ++ hitMoves 2 2 oneKey

/-- The third call is told revision 2 and gets the keys of revision 1. -/
theorem cachedKeys_stale : ¬ ∀ (server : Server) (calls : List Call) (ms : List CacheMove) (c : CachePool),
    Pool.run (cacheMachine true) (fun _ _ _ => true) (callPool env noRekeySdk server calls) ms = some c →
      ∀ i r keys, (⟨.cachedKeysForRevision r, some keys⟩ : Event inventory) ∈ eventsOf i ms →
        ∃ ks, c.shared.server.Held r ks ∧ keys.Perm ks.keys := by
  intro hall
  have hlast : (Pool.run (cacheMachine true) (fun _ _ _ => true) (callPool env noRekeySdk keyServer
      [.listKeysIfKeysetChanged, .listKeys true, .listKeysIfKeysetChanged]) staleRun).map
        (fun c => (c.shared.server.revision, c.shared.server.keySet.keys)) =
      some (2, [spendingKey, secondKey]) := by decide +kernel
  obtain ⟨c, hc, hserver⟩ := Option.map_eq_some_iff.mp hlast
  obtain ⟨hrevision, hkeys⟩ := Prod.mk.inj hserver
  have hmem : (⟨.cachedKeysForRevision 2, some [spendingKey]⟩ : Event inventory) ∈ eventsOf 2 staleRun :=
    List.mem_of_getElem? (i := 2) rfl
  obtain ⟨ks, hheld, hperm⟩ := hall _ _ _ c hc 2 2 _ hmem
  rw [Server.held_unique hheld (hrevision ▸ c.shared.server.held_now), hkeys] at hperm
  exact absurd hperm.length_eq (by decide)

end Demo

end AplaneSdk
