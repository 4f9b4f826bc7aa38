/-
# The target of a rekey

`PrepareRekey` resolves the sender against an inventory and then looks the
target up in the cache, in a critical section of its own. An absent entry is
leave to go on. Between the two sections another call may clear the cache, or
fill it with an inventory in which the target is gone or has another flow, and
then a target that cannot authorize another account goes through. So does one
that `/keys` lists a second time with a flow that can: the cache keeps the last
entry. Where no other call takes a refusal out of the cache meanwhile, and the
last entry is the refused one, such a target is refused in every interleaving.

Key definitions: `ResolvedAgainst`, `refuses`, `keepsRefusal`, `Unspoilt`.
Key theorems: `obeys_prepareRekey`, `unspoilt_run`, `prepareRekey_refuses`.
-/
import AplaneSdk.Revisions

namespace AplaneSdk

open Interaction Interaction.Prog

/-! ### What the call does by itself -/

/-- What a call has seen of the inventory, and whether it has asked anything
since. -/
structure CheckView where
  inventory : Option (List KeyInfo) := none
  fresh : Bool := false

/-- The inventory a step gave to the call. -/
def inventoryOf : Event inventory → Option (List KeyInfo)
  | ⟨.cachedKeysForRevision _, keys⟩ => keys
  | ⟨.storeKeys keys, _⟩ => some keys
  | _ => none

/-- The cache is labelled, or asked for a key, right after the inventory came. -/
def checkMonitor : Monitor inventory CheckView where
  next v
    | ⟨.cachedKeysForRevision _, some keys⟩ => { inventory := some keys, fresh := true }
    | ⟨.storeKeys keys, _⟩ => { inventory := some keys, fresh := true }
    | ⟨.cacheKeysRevision _, _⟩ => v
    | _ => { v with fresh := false }
  allows v e := match e.op with
    | .cacheKeysRevision _ | .keyAt _ => v.fresh = true
    | _ => True

/-- The inventory the sender was resolved against. -/
def ResolvedAgainst (t : Trace inventory) (keys : List KeyInfo) : Prop :=
  ∃ e ∈ t, inventoryOf e = some keys

section Alone

variable {env : Env} {v : CheckView} {t : Trace inventory}

theorem after_listKeysIfKeysetChanged {keys : List KeyInfo}
    (h : Runs (Go.listKeysIfKeysetChanged env) t (.ok keys)) :
    checkMonitor.after v t = { inventory := some keys, fresh := true } := by
  obtain ⟨reply, st, -, htrace⟩ := Go.runs_listKeysIfKeysetChanged_ok h
  rcases htrace with rfl | ⟨t', ⟨reply', body, -, -, rfl⟩, rfl⟩
  · rfl
  · rfl

theorem inventory_listKeysIfKeysetChanged {keys keys' : List KeyInfo}
    (h : Runs (Go.listKeysIfKeysetChanged env) t (.ok keys)) (hinv : ResolvedAgainst t keys') : keys' = keys := by
  obtain ⟨reply, st, -, htrace⟩ := Go.runs_listKeysIfKeysetChanged_ok h
  obtain ⟨e, he, hkeys⟩ := hinv
  rcases htrace with rfl | ⟨t', ⟨reply', body, -, -, rfl⟩, rfl⟩
  · simp only [List.mem_cons, List.not_mem_nil, or_false] at he
    rcases he with rfl | rfl | rfl
    · cases hkeys
    · cases hkeys
    · cases hkeys
      rfl
  · simp only [List.cons_append, List.nil_append, List.mem_cons, List.not_mem_nil, or_false] at he
    rcases he with rfl | rfl | rfl | rfl | rfl | rfl | rfl
    · cases hkeys
    · cases hkeys
    · cases hkeys
    · cases hkeys
    · cases hkeys
    · cases hkeys
      rfl
    · cases hkeys

theorem runs_resolveAuthAddress_ok {address : String} {lookup : Except String String}
    {resolved : Go.ResolvedAuthAddress} (h : Runs (Go.resolveAuthAddress env address lookup) t (.ok resolved)) :
    ∃ keys, Runs (Go.listKeysIfKeysetChanged env) t (.ok keys) := by
  obtain ⟨authAddr, -, h⟩ := runs_lift_bind_ok.mp h
  obtain ⟨keys, t₁, t₂, rfl, hkeys, h⟩ := runs_bind_ok.mp h
  have hnil : t₂ = [] := by
    repeat' split at h
    all_goals exact h.1
  rw [hnil, List.append_nil]
  exact ⟨keys, hkeys⟩

/-- Before it resolves the sender, `PrepareRekey` does not touch the cache. -/
theorem emits_buildRekey (sdk : Go.RekeySdk) (params : Go.RekeyPrepParams) :
    Emits (fun e => CacheOp.quiet e.op = true) (Go.buildRekey sdk params) := by
  have hfetch : ∀ {o : CacheOp}, CacheOp.quiet o = true →
      Emits (fun e => CacheOp.quiet e.op = true) (Go.fetch o) := fun h =>
    emits_bind (emits_query fun _ => h) fun _ => emits_bind (emits_query fun _ => rfl) fun _ => emits_pure _
  refine emits_bind (emits_lift _) fun _ => emits_bind (emits_lift _) fun _ => ?_
  refine emits_bind (hfetch rfl) fun _ => emits_bind (emits_lift _) fun _ => ?_
  refine emits_bind (hfetch rfl) fun _ => emits_bind (emits_lift _) fun _ => ?_
  refine emits_bind ?_ fun target => ?_
  · unfold Go.rekeyTargetAccount
    split
    · exact emits_bind (hfetch rfl) fun _ => emits_lift _
    · exact emits_pure _
  · refine emits_bind (emits_lift _) fun _ => emits_bind (emits_lift _) fun _ => ?_
    exact emits_bind (emits_lift _) fun _ => emits_pure _

theorem checkMonitor_allows_quiet (v : CheckView) {e : Event inventory}
    (h : CacheOp.quiet e.op = true) : checkMonitor.allows v e := by
  obtain ⟨o, a⟩ := e
  cases o with
  | status | keys | cachedKeysForRevision r | keyAt address | storeKeys keys | cacheKeysRevision r | clear =>
    cases h
  | _ => exact trivial

theorem obeys_check_fetchKeys : Obeys checkMonitor v (Go.fetchKeys env) := by
  refine obeys_bind (obeys_mapError ?_) fun t result _ => ?_
  · refine Go.obeys_fetch_bind fun reply => ⟨trivial, trivial, ?_⟩
    split
    · exact obeys_done _
    · exact obeys_lift_bind fun _ _ => obeys_query_bind fun _ => ⟨trivial, obeys_done _⟩
  · split <;> exact obeys_done _

theorem obeys_check_listKeysIfKeysetChanged : Obeys checkMonitor v (Go.listKeysIfKeysetChanged env) := by
  refine obeys_bind (Go.obeys_fetch_bind fun reply => ⟨trivial, trivial, obeys_done _⟩) fun t st _ => ?_
  cases st.signerLocked with
  | true => exact obeys_done _
  | false =>
    refine obeys_query_bind fun cached => ⟨trivial, ?_⟩
    cases cached with
    | some keys => exact obeys_done _
    | none =>
      refine obeys_bind obeys_check_fetchKeys fun t keys ht => ?_
      obtain ⟨reply, body, -, -, rfl⟩ := Go.runs_fetchKeys_ok ht
      exact obeys_query_bind fun _ => ⟨rfl, obeys_done _⟩

/-- `PrepareRekey` looks the target up right after the inventory came. -/
theorem obeys_prepareRekey (sdk : Go.RekeySdk) (params : Go.RekeyPrepParams) :
    Obeys checkMonitor v (Go.prepareRekey env sdk params) := by
  refine obeys_bind (obeys_buildRekey checkMonitor_allows_quiet sdk params) fun _ built _ => ?_
  refine obeys_bind ?_ fun t resolved ht => ?_
  · refine obeys_lift_bind fun authAddr _ => ?_
    refine obeys_bind obeys_check_listKeysIfKeysetChanged fun t keys _ => ?_
    repeat' split
    all_goals exact obeys_done _
  · obtain ⟨keys, hkeys⟩ := runs_resolveAuthAddress_ok ht
    rw [after_listKeysIfKeysetChanged hkeys]
    refine obeys_bind ?_ fun _ _ _ => obeys_done _
    unfold Go.checkRekeyTarget
    split
    · refine obeys_query_bind fun held => ⟨rfl, ?_⟩
      cases held <;> exact obeys_done _
    · exact obeys_done _

/-- What a rekey that went through saw: the inventory, then the key of the
target in the cache, whose flow passed. -/
theorem runs_prepareRekey_ok {sdk : Go.RekeySdk} {params : Go.RekeyPrepParams} {slot : PreparedTransaction}
    (hne : params.rekeyTo ≠ params.sender) (h : Runs (Go.prepareRekey env sdk params) t (.ok slot)) :
    ∃ t₁ t₂ keys held, t = t₁ ++ t₂ ++ [⟨.keyAt params.rekeyTo, held⟩] ∧
      (∀ e ∈ t₁, CacheOp.quiet e.op = true) ∧ Runs (Go.listKeysIfKeysetChanged env) t₂ (.ok keys) ∧
        held.all (fun k => Go.knownRekeyFlow k.signingFlow) = true := by
  obtain ⟨built, t₁, t', rfl, hbuild, h⟩ := runs_bind_ok.mp h
  obtain ⟨resolved, t₂, t'', rfl, hresolve, h⟩ := runs_bind_ok.mp h
  obtain ⟨⟨⟩, t₃, t₄, rfl, hcheck, rfl, -⟩ := runs_bind_ok.mp h
  obtain ⟨keys, hkeys⟩ := runs_resolveAuthAddress_ok hresolve
  unfold Go.checkRekeyTarget at hcheck
  rw [if_pos hne] at hcheck
  obtain ⟨held, t₅, rfl, hheld⟩ := hcheck
  refine ⟨t₁, t₂, keys, held, ?_, emits_buildRekey sdk params _ _ hbuild, hkeys, ?_⟩
  · have hnil : t₅ = [] := by
      cases held <;> exact hheld.1
    rw [hnil, List.append_nil, List.append_assoc]
  · cases held with
    | none => rfl
    | some k =>
      have hflow : Except.ok () = Go.rekeyTargetFlowCheck env params.rekeyTo k.signingFlow := hheld.2
      unfold Go.rekeyTargetFlowCheck at hflow
      split at hflow
      · assumption
      · split at hflow <;> cases hflow

end Alone

/-! ### Runs that leave a refusal in place -/

/-- A key at the target's address that cannot authorize another account. -/
def unfit (rekeyTo : String) (k : KeyInfo) : Bool := k.address = rekeyTo && !Go.knownRekeyFlow k.signingFlow

/-- A lookup of the target in this map ends in a refusal. -/
def refuses (rekeyTo : String) (m : Option KeyMap) : Bool :=
  (m.bind (·.get? rekeyTo)).any fun k => !Go.knownRekeyFlow k.signingFlow

theorem refuses_of_perm {rekeyTo : String} {m : KeyMap} {keys : List KeyInfo} (hperm : keys.Perm m.values)
    (h : keys.any (unfit rekeyTo) = true) : refuses rekeyTo (some m) = true := by
  obtain ⟨k, hk, hunfit⟩ := List.any_eq_true.mp h
  rw [unfit, Bool.and_eq_true, decide_eq_true_eq] at hunfit
  obtain ⟨rfl, hflow⟩ := hunfit
  have hget : m.get? k.address = some k := KeyMap.mem_values.mp (hperm.subset hk)
  rw [refuses, Option.bind_some, hget]
  exact hflow

/-- The call has its inventory and still has to look the target up. -/
def awaitsCheck (p : CacheFlow Outcome) : Bool :=
  match p.pending with
  | some (.cacheKeysRevision _) | some (.keyAt _) => true
  | _ => false

/-- While call `i` has its inventory and still has to look the target up, no
other call takes a refusal of the target out of the cache. Where the inventory
that the call fetches has an unfit key at the target, the last key there is one. -/
def keepsRefusal (i : ℕ) (rekeyTo : String) (_past : List CacheMove) (c : CachePool) : CacheMove → Bool
  | .thread j ⟨.storeKeys keys, _⟩ =>
    if j = i then !keys.any (unfit rekeyTo) || refuses rekeyTo (some (KeyMap.ofKeys keys))
    else !c.threads[i]?.any awaitsCheck || !refuses rekeyTo c.shared.cache.keys ||
      refuses rekeyTo (some (KeyMap.ofKeys keys))
  | .thread j ⟨.clear, _⟩ =>
    j == i || !c.threads[i]?.any awaitsCheck || !refuses rekeyTo c.shared.cache.keys
  | _ => true

/-- What call `i` has seen of the inventory. -/
def checkView (i : ℕ) (ms : List CacheMove) : CheckView := checkMonitor.after {} (eventsOf i ms)

/-- The inventory of call `i` has an unfit key at the target. -/
def Unfit (i : ℕ) (rekeyTo : String) (ms : List CacheMove) : Prop :=
  (checkView i ms).inventory.any (·.any (unfit rekeyTo)) = true

/-- What holds of every state such a run reaches. -/
structure Unspoilt (i : ℕ) (rekeyTo : String) (ms : List CacheMove) (c : CachePool) : Prop where
  /-- Until the call has looked an unfit target up, the cache refuses it. -/
  window : ∀ p, c.threads[i]? = some p → awaitsCheck p = true → Unfit i rekeyTo ms →
    refuses rekeyTo c.shared.cache.keys = true
  /-- The lookup of an unfit target found an unfit key. -/
  answered : ∀ held, (eventsOf i ms).getLast? = some ⟨.keyAt rekeyTo, held⟩ → Unfit i rekeyTo ms →
    held.any (fun k => !Go.knownRekeyFlow k.signingFlow) = true

section Step

variable {ms : List CacheMove} {c : CachePool} {i j : ℕ} {rekeyTo : String} {e : Event inventory}
  {s' : CacheState} {p : CacheFlow Outcome} {honest : Bool}

theorem checkView_self : checkView i (ms ++ [.thread i e]) = checkMonitor.next (checkView i ms) e := by
  rw [checkView, eventsOf_self, Monitor.after_snoc]
  rfl

/-- A call about to look at the cache has a fresh inventory. -/
theorem fresh_of_obeys {v : CheckView} (h : Obeys checkMonitor v p) (hp : awaitsCheck p = true) :
    v.fresh = true := by
  cases p with
  | done r => cases hp
  | ask o k =>
    cases o with
    | cacheKeysRevision r => exact (h ()).1
    | keyAt address => exact (h none).1
    | _ => cases hp

/-- A step of another call. -/
theorem Unspoilt.other (h : Unspoilt i rekeyTo ms c) (hj : j ≠ i) (hstep : CacheStep honest c.shared e s')
    (hguard : keepsRefusal i rekeyTo ms c (.thread j e) = true) :
    Unspoilt i rekeyTo (ms ++ [.thread j e]) ⟨s', c.threads.set j p⟩ := by
  have hview : checkView i (ms ++ [.thread j e]) = checkView i ms := by
    rw [checkView, eventsOf_ne hj]
    rfl
  refine ⟨fun q hq hawaits hunfit => ?_, fun held hlast hunfit => ?_⟩
  · rw [List.getElem?_set_ne hj] at hq
    have hunfit : Unfit i rekeyTo ms := by
      rw [Unfit, ← hview]
      exact hunfit
    have hbefore := h.window q hq hawaits hunfit
    have hany : c.threads[i]?.any awaitsCheck = true := by
      rw [hq]
      exact hawaits
    cases hstep with
    | store keys =>
      simp only [keepsRefusal, if_neg hj, hany, hbefore, Bool.not_true, Bool.false_or] at hguard
      exact hguard
    | clear =>
      have hji : (j == i) = false := by simpa using hj
      simp only [keepsRefusal, hji, hany, hbefore, Bool.not_true, Bool.false_or] at hguard
      cases hguard
    | _ => exact hbefore
  · rw [eventsOf_ne hj] at hlast
    refine h.answered held hlast ?_
    rw [Unfit, ← hview]
    exact hunfit

/-- The cache after a step of the call itself that leaves it with a lookup to do. -/
theorem Unspoilt.window_self (h : Unspoilt i rekeyTo ms c) (hstep : CacheStep honest c.shared e s')
    (hp : c.threads[i]? = some p) (hpending : p.pending = some e.op)
    (hguard : keepsRefusal i rekeyTo ms c (.thread i e) = true)
    (hfresh : (checkView i (ms ++ [.thread i e])).fresh = true)
    (hunfit : Unfit i rekeyTo (ms ++ [.thread i e])) : refuses rekeyTo s'.cache.keys = true := by
  rw [Unfit, checkView_self] at hunfit
  rw [checkView_self] at hfresh
  cases hstep with
  | hit r a hlists =>
    cases a with
    | none => cases hfresh
    | some keys =>
      have hunfit : keys.any (unfit rekeyTo) = true := hunfit
      cases hhit : c.shared.cache.hit r with
      | none =>
        rw [hhit] at hlists
        cases hlists
      | some m =>
        rw [hhit] at hlists
        have hkeys : c.shared.cache.keys = some m := by
          rw [Cache.hit] at hhit
          split at hhit
          · exact hhit
          · cases hhit
        rw [hkeys]
        exact refuses_of_perm (of_decide_eq_true hlists) hunfit
  | store keys =>
    have hunfit : keys.any (unfit rekeyTo) = true := hunfit
    simp only [keepsRefusal, if_true, hunfit, Bool.not_true, Bool.false_or] at hguard
    exact hguard
  | label r =>
    have hawaits : awaitsCheck p = true := by
      rw [awaitsCheck, hpending]
    exact h.window p hp hawaits hunfit
  | quiet e hquiet =>
    obtain ⟨o, a⟩ := e
    cases o with
    | status | keys | cachedKeysForRevision r | keyAt address | storeKeys keys | cacheKeysRevision r
    | clear => cases hquiet
    | _ => cases hfresh
  | _ => cases hfresh

/-- A step of the call itself. -/
theorem Unspoilt.self {q : CacheFlow Outcome} (h : Unspoilt i rekeyTo ms c) (hstep : CacheStep honest c.shared e s')
    (hp : c.threads[i]? = some p) (hpending : p.pending = some e.op)
    (hguard : keepsRefusal i rekeyTo ms c (.thread i e) = true)
    (hobeys : Obeys checkMonitor (checkView i (ms ++ [.thread i e])) q) :
    Unspoilt i rekeyTo (ms ++ [.thread i e]) ⟨s', c.threads.set i q⟩ := by
  have hi := (List.getElem?_eq_some_iff.mp hp).1
  refine ⟨fun q' hq hawaits hunfit => ?_, fun held hlast hunfit => ?_⟩
  · rw [List.getElem?_set_self hi] at hq
    cases Option.some.inj hq
    exact h.window_self hstep hp hpending hguard (fresh_of_obeys hobeys hawaits) hunfit
  · rw [eventsOf_self, List.getLast?_concat] at hlast
    cases Option.some.inj hlast
    have hawaits : awaitsCheck p = true := by
      rw [awaitsCheck, hpending]
    have hunfit : Unfit i rekeyTo ms := by
      rw [Unfit, checkView_self] at hunfit
      exact hunfit
    have hrefuses := h.window p hp hawaits hunfit
    cases hstep with
    | keyAt address => exact hrefuses
    | quiet e hquiet => cases hquiet

end Step

section Run

variable {env : Env} {sdk : Go.RekeySdk} {server : Server} {calls : List Call} {ms : List CacheMove}
  {c : CachePool} {i : ℕ} {params : Go.RekeyPrepParams} {honest : Bool}

theorem callPool_thread {call : Call} (h : calls[i]? = some call) :
    (callPool env sdk server calls).threads[i]? = some (call.flow env sdk) := by
  rw [callPool, List.getElem?_map, h]
  rfl

theorem unspoilt_run (hcall : calls[i]? = some (.prepareRekey params))
    (h : Pool.run (cacheMachine honest) (keepsRefusal i params.rekeyTo) (callPool env sdk server calls) ms = some c) :
    Unspoilt i params.rekeyTo ms c := by
  refine Pool.run_induction (P := Unspoilt i params.rekeyTo) ?_ ?_ h
  · refine ⟨fun _ _ _ hunfit => ?_, fun _ hlast => ?_⟩
    · cases hunfit
    · cases hlast
  · intro ms c₁ m c₂ hrun ih hguard hstep
    cases m with
    | drift d =>
      obtain ⟨s, hs, rfl⟩ := (Pool.step_drift (M := cacheMachine honest)).mp hstep
      obtain ⟨server', -, rfl⟩ := Option.map_eq_some_iff.mp hs
      obtain ⟨hwindow, hanswered⟩ := ih
      refine ⟨fun p hp hawaits hunfit => ?_, fun held hlast hunfit => ?_⟩
      · rw [Unfit, checkView, eventsOf_drift] at hunfit
        exact hwindow p hp hawaits hunfit
      · rw [Unfit, checkView, eventsOf_drift] at hunfit
        rw [eventsOf_drift] at hlast
        exact hanswered held hlast hunfit
    | thread j e =>
      obtain ⟨k, s, hk, hs, rfl⟩ := (Pool.step_thread (M := cacheMachine honest)).mp hstep
      have hcache := cacheStep_of_answer hs
      by_cases hj : j = i
      · subst hj
        have hchecks : ∀ p, (callPool env sdk server calls).threads[j]? = some p →
            Obeys checkMonitor {} p := by
          intro p hp
          rw [callPool_thread hcall] at hp
          cases Option.some.inj hp
          exact obeys_bind (obeys_prepareRekey sdk params) fun _ _ _ => obeys_done _
        have hobeys : Obeys checkMonitor (checkView j (ms ++ [.thread j e])) (k e.ans) := by
          rw [checkView_self]
          exact (Pool.thread_obeys hchecks hrun hk e.ans).2
        exact ih.self hcache hk rfl hguard hobeys
      · exact ih.other hj hcache hguard

end Run

/-- **An unfit target is refused.** In every interleaving in which no other call
takes the refusal out of the cache between the inventory and the lookup, a
`PrepareRekey` whose inventory has a key at the target that cannot authorize
another account ends with an error. The signer may tell anything, but of the
keys it lists at the target the last is one that cannot. -/
theorem prepareRekey_refuses (env : Env) (sdk : Go.RekeySdk) (honest : Bool) (server : Server)
    (calls : List Call) (i : ℕ) (params : Go.RekeyPrepParams) (hcall : calls[i]? = some (.prepareRekey params))
    (hne : params.rekeyTo ≠ params.sender) (ms : List CacheMove) (c : CachePool)
    (h : Pool.run (cacheMachine honest) (keepsRefusal i params.rekeyTo) (callPool env sdk server calls) ms = some c)
    (r : Except SdkError Outcome) (hdone : c.threads[i]? = some (done r)) (keys : List KeyInfo)
    (hkeys : ResolvedAgainst (eventsOf i ms) keys) (k : KeyInfo) (hk : k ∈ keys)
    (haddress : k.address = params.rekeyTo) (hflow : Go.knownRekeyFlow k.signingFlow = false) :
    ∃ e, r = .error e := by
  cases r with
  | error e => exact ⟨e, rfl⟩
  | ok outcome =>
    obtain ⟨p, hp, hleads⟩ := Pool.run_leads (callPool_thread hcall) h
    rw [hdone] at hp
    cases Option.some.inj hp
    obtain ⟨slot, t, t', htrace, hrun, rfl, -⟩ := runs_bind_ok.mp hleads.runs
    rw [List.append_nil] at htrace
    obtain ⟨t₁, t₂, keys', held, ht, hquiet, hlist, hknown⟩ := runs_prepareRekey_ok hne hrun
    rw [← htrace] at ht
    have hinv : keys = keys' := by
      obtain ⟨e, he, hinventory⟩ := hkeys
      rw [ht] at he
      rcases List.mem_append.mp he with he | he
      · rcases List.mem_append.mp he with he | he
        · -- the steps before the resolution give no inventory
          have := hquiet e he
          obtain ⟨o, a⟩ := e
          cases o with
          | storeKeys keys | cachedKeysForRevision r => cases this
          | _ => cases hinventory
        · exact inventory_listKeysIfKeysetChanged hlist ⟨e, he, hinventory⟩
      · obtain rfl := List.mem_singleton.mp he
        cases hinventory
    have hview : (checkView i ms).inventory = some keys' := by
      rw [checkView, ht, Monitor.after_snoc, Monitor.after, List.foldl_append]
      change (checkMonitor.after _ t₂).inventory = _
      rw [after_listKeysIfKeysetChanged hlist]
    have hunfit : Unfit i params.rekeyTo ms := by
      rw [Unfit, hview, ← hinv]
      refine List.any_eq_true.mpr ⟨k, hk, ?_⟩
      simp [unfit, haddress, hflow]
    have hlast : (eventsOf i ms).getLast? = some ⟨.keyAt params.rekeyTo, held⟩ := by
      rw [ht, List.getLast?_concat]
    have hrefused := (unspoilt_run hcall h).answered held hlast hunfit
    cases held with
    | none => cases hrefused
    | some target =>
      have hknown : Go.knownRekeyFlow target.signingFlow = true := hknown
      simp [hknown] at hrefused

namespace Demo

def rotatingKey : KeyInfo := { address := "R", signingFlow := signingFlowRotating1 }

def rotatingKeys : KeySet := ⟨[spendingKey, rotatingKey], by decide⟩

def rotatingServer : Server := .fresh 1 rotatingKeys

/-- An SDK that builds one transaction. -/
def paymentRekeySdk : Go.RekeySdk where
  makePaymentTxn _ _ _ := .ok payment
  rekey t rekeyTo := .ok { t with rekeyTo := some rekeyTo }

def rekeyParams : Go.RekeyPrepParams := { sender := "A", rekeyTo := "R" }

def suggestedParams : SuggestedParams := { fee := 1000, flatFee := true, rest := [] }

/-- What algod tells call 0. -/
def algodMoves : List CacheMove :=
  [.thread 0 ⟨.suggestedParams, .ok suggestedParams⟩, .thread 0 ⟨.received, ()⟩,
    .thread 0 ⟨.accountInformation "A", .ok { address := "A", authAddr := "" }⟩, .thread 0 ⟨.received, ()⟩,
    .thread 0 ⟨.accountInformation "R", .ok { address := "R", authAddr := "" }⟩, .thread 0 ⟨.received, ()⟩]

/-- A rekey with another call between its inventory and its lookup. -/
def rekeyRun (keys : List KeyInfo) (between : List CacheMove) (held : Option KeyInfo) : List CacheMove :=
  algodMoves ++ refreshMoves 0 1 keys ++ between ++
    [.thread 0 ⟨.cacheKeysRevision 1, ()⟩, .thread 0 ⟨.keyAt "R", held⟩]

/-- A call that deletes some other key, up to its clear of the cache. -/
def deleteMoves : List CacheMove :=
  [.thread 1 ⟨.delete "Z", .http 200 "OK" "" none none⟩, .thread 1 ⟨.received, ()⟩, .thread 1 ⟨.clear, ()⟩]

def rekeyCalls : List Call := [.prepareRekey rekeyParams, .deleteKey "Z"]

/-- The rotating account, listed once more without a flow. -/
def listedTwice : List KeyInfo := [spendingKey, rotatingKey, { address := "R" }]

/-- Call 0 has ended, with a value or not. -/
def rekeyEnded (ok : Bool) (c : CachePool) : Bool :=
  match c.threads[0]? with
  | some (done (.ok _)) => ok
  | some (done (.error _)) => !ok
  | _ => false

theorem rekeyEnded_done {ok : Bool} {c : CachePool} (h : rekeyEnded ok c = true) :
    ∃ r, c.threads[0]? = some (done r) ∧ (ok = true → ∀ e, r ≠ .error e) := by
  unfold rekeyEnded at h
  split at h
  · exact ⟨_, by assumption, fun _ _ he => by cases he⟩
  · refine ⟨_, by assumption, fun hok => ?_⟩
    rw [hok] at h
    cases h
  · cases h

/-- The delete comes first. -/
theorem prepareRekey_refuses_rotating : ∃ (c : CachePool) (e : SdkError),
    Pool.run (cacheMachine true) (keepsRefusal 0 "R") (callPool env paymentRekeySdk rotatingServer rekeyCalls)
      (deleteMoves ++ rekeyRun rotatingKeys.keys [] (some rotatingKey)) = some c ∧ c.threads[0]? = some (done (.error e)) := by
  have hends : (Pool.run (cacheMachine true) (keepsRefusal 0 "R") (callPool env paymentRekeySdk rotatingServer rekeyCalls)
      (deleteMoves ++ rekeyRun rotatingKeys.keys [] (some rotatingKey))).any (rekeyEnded false) = true := by decide +kernel
  obtain ⟨c, hc, hended⟩ := (Option.any_eq_true _ _).mp hends
  obtain ⟨r, hr, -⟩ := rekeyEnded_done hended
  have hkeys : ResolvedAgainst (eventsOf 0 (deleteMoves ++ rekeyRun rotatingKeys.keys [] (some rotatingKey))) rotatingKeys.keys :=
    ⟨⟨.storeKeys rotatingKeys.keys, ()⟩, List.mem_of_getElem? (i := 11) rfl, rfl⟩
  obtain ⟨e, rfl⟩ := prepareRekey_refuses env paymentRekeySdk true rotatingServer rekeyCalls 0 rekeyParams rfl
    (by decide) _ c hc r hr _ hkeys rotatingKey (List.mem_of_getElem? (i := 1) rfl) rfl (by decide)
  exact ⟨c, e, hc, hr⟩

/-- The delete of another key clears the cache between the inventory and the
lookup, and the rekey to a rotating account goes through. With no other call at
all it goes through where the account is listed twice. -/
theorem prepareRekey_admits_rotating : (¬ ∀ (sdk : Go.RekeySdk) (server : Server) (calls : List Call) (i : ℕ)
    (params : Go.RekeyPrepParams), calls[i]? = some (.prepareRekey params) → params.rekeyTo ≠ params.sender →
      ∀ (ms : List CacheMove) (c : CachePool),
        Pool.run (cacheMachine true) (fun _ _ _ => true) (callPool env sdk server calls) ms = some c →
        ∀ r, c.threads[i]? = some (done r) → ∀ keys, ResolvedAgainst (eventsOf i ms) keys →
          ∀ k ∈ keys, k.address = params.rekeyTo → Go.knownRekeyFlow k.signingFlow = false →
            ∃ e, r = .error e) ∧
    (Pool.run (cacheMachine false) (fun _ _ _ => true)
      (callPool env paymentRekeySdk rotatingServer [.prepareRekey rekeyParams])
        (rekeyRun listedTwice [] (some { address := "R" }))).any (rekeyEnded true) = true := by
  refine ⟨fun hall => ?_, by decide +kernel⟩
  have hends : (Pool.run (cacheMachine true) (fun _ _ _ => true)
      (callPool env paymentRekeySdk rotatingServer rekeyCalls) (rekeyRun rotatingKeys.keys deleteMoves none)).any
        (rekeyEnded true) = true := by decide +kernel
  obtain ⟨c, hc, hended⟩ := (Option.any_eq_true _ _).mp hends
  obtain ⟨r, hr, hok⟩ := rekeyEnded_done hended
  have hkeys : ResolvedAgainst (eventsOf 0 (rekeyRun rotatingKeys.keys deleteMoves none)) rotatingKeys.keys :=
    ⟨⟨.storeKeys rotatingKeys.keys, ()⟩, List.mem_of_getElem? (i := 11) rfl, rfl⟩
  obtain ⟨e, he⟩ := hall paymentRekeySdk rotatingServer rekeyCalls 0 rekeyParams rfl (by decide) _ c hc r hr _
    hkeys rotatingKey (List.mem_of_getElem? (i := 1) rfl) rfl (by decide)
  exact hok rfl e he

end Demo

end AplaneSdk
