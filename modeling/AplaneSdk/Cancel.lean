/-
# Cancelling a request of the Go client

`SignGroupWithContext`, `signResponse` and `RequestComponentsWithContext` wait
for the signer while a second goroutine watches the context: when the context
ends first, the watcher asks the signer to cancel the approval. A channel that
is closed when the request returns, looked at twice, is to keep the watcher
from cancelling a request that was answered, and a `sync.Once` keeps the two
goroutines from cancelling twice. The `sync.Once` does its work in every
interleaving. The channel does not: between the return of `client.Do` and
`close(done)`, and between the watcher's second look and its request, nothing
holds the other goroutine back.

Key definitions: `CancelOp`, `cancelCaller`, `cancelWatcher`, `CallState`,
`cancelMachine`, `unraced`.
Key theorems: `cancels_le_one`, `cancels_eq_zero`, `cancelProtocol`.
-/
import AplaneSdk.Lib.Threads

namespace AplaneSdk

open Interaction Interaction.Prog

/-! ### The two goroutines -/

/-- How `client.Do` returned. -/
inductive DoResult
  | response
  | error
  deriving DecidableEq

/-- Which case of the watcher's first `select` was taken. -/
inductive Woken
  | done
  | ended

/-- The steps of the two goroutines. -/
inductive CancelOp
  /-- `go func()`. -/
  | start
  /-- The watcher runs for the first time. -/
  | started
  /-- `http.NewRequestWithContext`. -/
  | newRequest
  /-- `client.Do`. -/
  | doRequest
  /-- `close(done)`. -/
  | closeDone
  /-- `reqCtx.Err() != nil`. -/
  | ctxErr
  /-- `select` on `done` and the context. -/
  | select
  /-- `select` on `done` with a default. -/
  | poll
  /-- `cancelOnce.Do`: whether this goroutine is to run the function. -/
  | onceEnter
  /-- POST `/sign/cancel`. -/
  | postCancel
  | onceLeave
  /-- The deferred `cancel()` of the request context. -/
  | cancelContext
  deriving DecidableEq

@[reducible] def CancelOp.Ans : CancelOp → Type
  | newRequest | ctxErr | poll | onceEnter => Bool
  | doRequest => DoResult
  | select => Woken
  | _ => Unit

abbrev cancelling : Iface := ⟨CancelOp, CancelOp.Ans⟩

abbrev CancelFlow := Prog cancelling Empty Unit

/-- `sendCancel`; a cosigner request bears no approval and is never cancelled. -/
def sendCancel (approvalBearing : Bool) : CancelFlow := do
  if approvalBearing then
    let first ← query (I := cancelling) .onceEnter
    if first then
      query (I := cancelling) .postCancel
      query (I := cancelling) .onceLeave

/-- The goroutine of the caller, from the start of the watcher on. -/
def cancelCaller (approvalBearing : Bool) : CancelFlow := do
  if approvalBearing then
    query (I := cancelling) .start
  let created ← query (I := cancelling) .newRequest
  if created then
    let result ← query (I := cancelling) .doRequest
    query (I := cancelling) .closeDone
    if result = .error then
      let ended ← query (I := cancelling) .ctxErr
      if ended then
        sendCancel approvalBearing
  else
    query (I := cancelling) .closeDone
  query (I := cancelling) .cancelContext

/-- The watcher. -/
def cancelWatcher (approvalBearing : Bool) : CancelFlow := do
  query (I := cancelling) .started
  let woken ← query (I := cancelling) .select
  match woken with
  | .done => pure ()
  | .ended =>
    let closed ← query (I := cancelling) .poll
    if closed then pure () else sendCancel approvalBearing

/-! ### What they share -/

inductive OnceState
  | fresh
  | running
  | finished
  deriving DecidableEq

structure CallState where
  started : Bool := false
  ctxEnded : Bool := false
  doneClosed : Bool := false
  once : OnceState := .fresh
  /-- How `client.Do` returned, if it has. -/
  returned : Option DoResult := none
  /-- The watcher has found `done` open at its second look. -/
  overdue : Bool := false
  /-- How often `/sign/cancel` was asked for. -/
  cancels : ℕ := 0

/-- The context may end at any moment; `client.Do` may return a response or an
error whether it has ended or not. A `select` with two ready cases takes either. -/
def cancelMachine : Machine cancelling Unit CallState where
  answer s
    | .start, () => some { s with started := true }
    | .started, () => if s.started then some s else none
    | .newRequest, _ => some s
    | .doRequest, r => some { s with returned := some r }
    | .closeDone, () => some { s with doneClosed := true }
    | .ctxErr, b => if b = s.ctxEnded then some s else none
    | .select, .done => if s.doneClosed then some s else none
    | .select, .ended => if s.ctxEnded then some s else none
    | .poll, b => if b = s.doneClosed then some { s with overdue := s.overdue || !b } else none
    | .onceEnter, true => if s.once = .fresh then some { s with once := .running } else none
    | .onceEnter, false => if s.once = .finished then some s else none
    | .postCancel, () => some { s with cancels := s.cancels + 1 }
    | .onceLeave, () => some { s with once := .finished }
    | .cancelContext, () => some { s with ctxEnded := true }
  drift s _ := some { s with ctxEnded := true }

/-- One call: the caller, and the watcher where the request bears approval. -/
def cancelCall (approvalBearing : Bool) : Pool cancelling Empty Unit CallState where
  shared := {}
  threads := cancelCaller approvalBearing :: if approvalBearing then [cancelWatcher approvalBearing] else []

/-- The moves that do not race: `client.Do` does not return a response once the
watcher has found `done` open, and the watcher does not find `done` open once
`client.Do` has returned a response. -/
def unraced (_past : List (Move cancelling Unit)) (c : Pool cancelling Empty Unit CallState) :
    Move cancelling Unit → Bool
  | .thread _ ⟨.doRequest, .response⟩ => !c.shared.overdue
  | .thread _ ⟨.poll, false⟩ => c.shared.returned != some .response
  | _ => true

/-! ### What each goroutine knows -/

/-- What a goroutine has seen by itself. -/
structure Seen where
  isCaller : Bool
  returned : Option DoResult := none
  /-- It has found `done` open at the second look. -/
  late : Bool := false
  /-- It is the one inside `cancelOnce`, before its request. -/
  inside : Bool := false

def cancelMonitor : Monitor cancelling Seen where
  next s
    | ⟨.doRequest, r⟩ => { s with returned := some r }
    | ⟨.poll, false⟩ => { s with late := true }
    | ⟨.onceEnter, true⟩ => { s with inside := true }
    | ⟨.postCancel, _⟩ => { s with inside := false }
    | _ => s
  allows s e := match e.op with
    | .doRequest => s.isCaller = true ∧ s.returned = none
    | .postCancel => s.inside = true ∧ (s.returned = some .error ∨ s.late = true)
    | _ => True

theorem obeys_sendCancel (b : Bool) {s : Seen} (h : s.returned = some .error ∨ s.late = true) :
    Obeys cancelMonitor s (sendCancel b) := by
  cases b with
  | false => exact obeys_done _
  | true =>
    refine obeys_query_bind fun first => ⟨trivial, ?_⟩
    cases first with
    | false => exact obeys_done _
    | true => exact obeys_query_bind fun _ => ⟨⟨rfl, h⟩, obeys_query fun _ => trivial⟩

/-- What the caller does once the watcher runs. -/
theorem obeys_cancelCaller (b : Bool) : Obeys cancelMonitor { isCaller := true } (cancelCaller b) := by
  have hrest : Obeys cancelMonitor { isCaller := true } (do
      let created ← query (I := cancelling) .newRequest
      if created then
        let result ← query (I := cancelling) .doRequest
        query (I := cancelling) .closeDone
        if result = .error then
          let ended ← query (I := cancelling) .ctxErr
          if ended then
            sendCancel b
      else
        query (I := cancelling) .closeDone
      query (I := cancelling) .cancelContext : CancelFlow) := by
    refine obeys_query_bind fun created => ⟨trivial, ?_⟩
    cases created with
    | false => exact obeys_query_bind fun _ => ⟨trivial, obeys_query fun _ => trivial⟩
    | true =>
      refine obeys_query_bind fun result => ⟨⟨rfl, rfl⟩, obeys_query_bind fun _ => ⟨trivial, ?_⟩⟩
      cases result with
      | response => exact obeys_query fun _ => trivial
      | error =>
        refine obeys_query_bind fun ended => ⟨trivial, ?_⟩
        cases ended with
        | false => exact obeys_query fun _ => trivial
        | true =>
          refine obeys_bind (obeys_sendCancel b (Or.inl rfl)) fun _ _ _ => obeys_query fun _ => trivial
  cases b with
  | false => exact hrest
  | true => exact obeys_query_bind fun _ => ⟨trivial, hrest⟩

theorem obeys_cancelWatcher (b : Bool) : Obeys cancelMonitor { isCaller := false } (cancelWatcher b) := by
  refine obeys_query_bind fun _ => ⟨trivial, obeys_query_bind fun woken => ⟨trivial, ?_⟩⟩
  cases woken with
  | done => exact obeys_done _
  | ended =>
    refine obeys_query_bind fun closed => ⟨trivial, ?_⟩
    cases closed with
    | true => exact obeys_done _
    | false => exact obeys_sendCancel b (Or.inr rfl)

/-- What goroutine `i` has seen; the caller is goroutine 0. -/
def seen (i : ℕ) (ms : List (Move cancelling Unit)) : Seen :=
  cancelMonitor.after { isCaller := i = 0 } (eventsOf i ms)

theorem obeys_cancelCall (b : Bool) : ∀ i p, (cancelCall b).threads[i]? = some p →
    Obeys cancelMonitor { isCaller := i = 0 } p := by
  intro i p hp
  cases i with
  | zero =>
    cases hp
    exact obeys_cancelCaller b
  | succ i =>
    cases b with
    | false => cases hp
    | true =>
      cases i with
      | zero =>
        cases hp
        exact obeys_cancelWatcher true
      | succ i => cases hp

section Seen

variable {i j : ℕ} {ms : List (Move cancelling Unit)}

theorem seen_drift (d : Unit) : seen i (ms ++ [.drift d]) = seen i ms := by
  rw [seen, eventsOf_drift]
  rfl

theorem seen_self (e : Event cancelling) :
    seen i (ms ++ [.thread i e]) = cancelMonitor.next (seen i ms) e := by
  rw [seen, eventsOf_self, Monitor.after_snoc]
  rfl

theorem seen_ne (h : j ≠ i) (e : Event cancelling) : seen i (ms ++ [.thread j e]) = seen i ms := by
  rw [seen, eventsOf_ne h]
  rfl

/-- What an event does not tell its own goroutine it tells nobody. -/
theorem seen_thread_same {α : Type} {f : Seen → α}
    {e : Event cancelling} (hnext : ∀ sn, f (cancelMonitor.next sn e) = f sn) (j : ℕ) :
    f (seen j (ms ++ [.thread i e])) = f (seen j ms) := by
  by_cases hj : i = j
  · subst hj
    rw [seen_self, hnext]
  · rw [seen_ne hj]

end Seen

/-! ### What a step can do -/

/-- A step that touches neither the result, the watcher's finding, nor the
cancel request. -/
structure QuietStep (s s' : CallState) (e : Event cancelling) : Prop where
  returned : s'.returned = s.returned
  overdue : s'.overdue = s.overdue
  cancels : s'.cancels = s.cancels
  once : s'.once = .fresh → s.once = .fresh
  next : ∀ sn, cancelMonitor.next sn e = sn

theorem cancelMachine_cases {s s' : CallState} {e : Event cancelling}
    (h : cancelMachine.answer s e.op e.ans = some s') :
    (∃ r, e = ⟨.doRequest, r⟩ ∧ s' = { s with returned := some r }) ∨
      (e = ⟨.poll, false⟩ ∧ s' = { s with overdue := true }) ∨
      (e = ⟨.onceEnter, true⟩ ∧ s.once = .fresh ∧ s' = { s with once := .running }) ∨
      (e = ⟨.postCancel, ()⟩ ∧ s' = { s with cancels := s.cancels + 1 }) ∨ QuietStep s s' e := by
  obtain ⟨o, a⟩ := e
  cases o with
  | doRequest =>
    cases h
    exact Or.inl ⟨a, rfl, rfl⟩
  | poll =>
    simp only [cancelMachine, Option.ite_none_right_eq_some, Option.some.injEq] at h
    obtain ⟨ha, rfl⟩ := h
    cases a with
    | false => exact Or.inr (Or.inl ⟨rfl, by simp⟩)
    | true => exact Or.inr (Or.inr (Or.inr (Or.inr ⟨rfl, by simp, rfl, id, fun _ => rfl⟩)))
  | onceEnter =>
    cases a with
    | true =>
      simp only [cancelMachine, Option.ite_none_right_eq_some, Option.some.injEq] at h
      exact Or.inr (Or.inr (Or.inl ⟨rfl, h.1, h.2.symm⟩))
    | false =>
      simp only [cancelMachine, Option.ite_none_right_eq_some, Option.some.injEq] at h
      obtain ⟨-, rfl⟩ := h
      exact Or.inr (Or.inr (Or.inr (Or.inr ⟨rfl, rfl, rfl, id, fun _ => rfl⟩)))
  | postCancel =>
    cases h
    exact Or.inr (Or.inr (Or.inr (Or.inl ⟨rfl, rfl⟩)))
  | onceLeave =>
    cases h
    exact Or.inr (Or.inr (Or.inr (Or.inr ⟨rfl, rfl, rfl, by simp, fun _ => rfl⟩)))
  | started | ctxErr =>
    simp only [cancelMachine, Option.ite_none_right_eq_some, Option.some.injEq] at h
    obtain ⟨-, rfl⟩ := h
    exact Or.inr (Or.inr (Or.inr (Or.inr ⟨rfl, rfl, rfl, id, fun _ => rfl⟩)))
  | select =>
    have hs : s' = s := by
      cases a <;> simp only [cancelMachine, Option.ite_none_right_eq_some, Option.some.injEq] at h <;>
        exact h.2.symm
    rw [hs]
    exact Or.inr (Or.inr (Or.inr (Or.inr ⟨rfl, rfl, rfl, id, fun _ => rfl⟩)))
  | start | newRequest | closeDone | cancelContext =>
    cases h
    exact Or.inr (Or.inr (Or.inr (Or.inr ⟨rfl, rfl, rfl, id, fun _ => rfl⟩)))

/-! ### At most one cancel request -/

/-- Only one goroutine is ever inside `cancelOnce`, and nothing was sent before. -/
structure OneInside (ms : List (Move cancelling Unit)) (s : CallState) : Prop where
  fresh : s.once = .fresh → s.cancels = 0 ∧ ∀ i, (seen i ms).inside = false
  alone : ∀ i j, (seen i ms).inside = true → (seen j ms).inside = true → i = j
  unsent : ∀ i, (seen i ms).inside = true → s.cancels = 0
  le_one : s.cancels ≤ 1

/-- A move that leaves everybody's place and the count alone keeps the invariant. -/
theorem OneInside.of_same {ms ms' : List (Move cancelling Unit)} {s s' : CallState} (h : OneInside ms s)
    (hseen : ∀ i, (seen i ms').inside = (seen i ms).inside) (hcancels : s'.cancels = s.cancels)
    (honce : s'.once = .fresh → s.once = .fresh) : OneInside ms' s' := by
  constructor
  · intro hf
    rw [hcancels]
    simp only [hseen]
    exact h.fresh (honce hf)
  · intro i j hi hj
    rw [hseen] at hi hj
    exact h.alone i j hi hj
  · intro i hi
    rw [hcancels]
    rw [hseen] at hi
    exact h.unsent i hi
  · rw [hcancels]
    exact h.le_one

theorem OneInside.thread {ms : List (Move cancelling Unit)} {s s' : CallState} {i : ℕ}
    {e : Event cancelling} (h : OneInside ms s) (hallow : cancelMonitor.allows (seen i ms) e)
    (hstep : cancelMachine.answer s e.op e.ans = some s') : OneInside (ms ++ [.thread i e]) s' := by
  rcases cancelMachine_cases hstep with ⟨r, rfl, rfl⟩ | ⟨rfl, rfl⟩ | ⟨rfl, hfresh, rfl⟩ | ⟨rfl, rfl⟩ | hq
  · exact h.of_same (seen_thread_same fun _ => rfl) rfl id
  · exact h.of_same (seen_thread_same fun _ => rfl) rfl id
  · -- the first to enter: nobody else is inside, and nothing was sent
    obtain ⟨hzero, hnone⟩ := h.fresh hfresh
    have honly : ∀ j, (seen j (ms ++ [.thread i ⟨.onceEnter, true⟩])).inside = true → j = i := by
      intro j hj
      by_contra hne
      rw [seen_ne fun hij => hne hij.symm, hnone] at hj
      cases hj
    refine ⟨fun hf => ?_, fun j k hj hk => ?_, fun _ _ => hzero, h.le_one⟩
    · cases hf
    · rw [honly j hj, honly k hk]
  · -- the one inside sends, and nobody is inside any more
    have hzero := h.unsent i hallow.1
    have hnone : ∀ j, (seen j (ms ++ [.thread i ⟨.postCancel, ()⟩])).inside = false := by
      intro j
      by_cases hj : i = j
      · subst hj
        rw [seen_self]
        rfl
      · rw [seen_ne hj, Bool.eq_false_iff]
        exact fun hin => hj (h.alone i j hallow.1 hin)
    refine ⟨fun hf => ?_, fun j k hj _ => ?_, fun j hj => ?_, ?_⟩
    · have hout := (h.fresh hf).2 i
      rw [hallow.1] at hout
      cases hout
    · rw [hnone] at hj
      cases hj
    · rw [hnone] at hj
      cases hj
    · dsimp only
      omega
  · exact h.of_same (seen_thread_same fun sn => by rw [hq.next]) hq.cancels hq.once

/-- No interleaving sends two cancel requests. -/
theorem cancels_le_one {b : Bool} {ms : List (Move cancelling Unit)}
    {c : Pool cancelling Empty Unit CallState}
    (h : Pool.run cancelMachine (fun _ _ _ => true) (cancelCall b) ms = some c) : c.shared.cancels ≤ 1 := by
  suffices hinv : OneInside ms c.shared from hinv.le_one
  refine Pool.run_induction (P := fun ms c => OneInside ms c.shared) ?_ ?_ h
  · refine ⟨fun _ => ⟨rfl, fun _ => rfl⟩, fun _ _ hi => ?_, fun _ _ => rfl, Nat.zero_le _⟩
    cases hi
  · intro ms c₁ m c₂ hrun ih _ hstep
    cases m with
    | drift d =>
      obtain ⟨s, hs, rfl⟩ := (Pool.step_drift (M := cancelMachine)).mp hstep
      cases hs
      exact ih.of_same (fun i => by rw [seen_drift]) rfl id
    | thread i e =>
      have hallow := Pool.step_allowed (obeys_cancelCall b i) hrun hstep
      obtain ⟨k, s, -, hs, rfl⟩ := (Pool.step_thread (M := cancelMachine)).mp hstep
      exact ih.thread hallow hs

/-! ### No cancel request after a response -/

/-- While nothing races, a cancel request has a reason: an error of
`client.Do`, or a watcher that found `done` open, and then no response came. -/
structure Justified (ms : List (Move cancelling Unit)) (s : CallState) : Prop where
  caller : ∀ i, (seen i ms).isCaller = decide (i = 0)
  returned : (seen 0 ms).returned = s.returned
  others : ∀ i, i ≠ 0 → (seen i ms).returned = none
  late : ∀ i, (seen i ms).late = true → s.overdue = true
  safe : s.overdue = true → s.returned ≠ some .response
  sent : s.cancels ≠ 0 → s.returned = some .error ∨ s.overdue = true

theorem Justified.of_same {ms ms' : List (Move cancelling Unit)} {s s' : CallState} (h : Justified ms s)
    (hcaller : ∀ i, (seen i ms').isCaller = (seen i ms).isCaller)
    (hreturned : ∀ i, (seen i ms').returned = (seen i ms).returned)
    (hlate : ∀ i, (seen i ms').late = (seen i ms).late) (hs : s'.returned = s.returned)
    (ho : s'.overdue = s.overdue) (hsent : s'.cancels ≠ 0 → s.returned = some .error ∨ s.overdue = true) :
    Justified ms' s' := by
  constructor
  · intro i
    rw [hcaller]
    exact h.caller i
  · rw [hreturned, hs]
    exact h.returned
  · intro i hi
    rw [hreturned]
    exact h.others i hi
  · intro i hi
    rw [hlate] at hi
    rw [ho]
    exact h.late i hi
  · rw [hs, ho]
    exact h.safe
  · rw [hs, ho]
    exact hsent

theorem Justified.thread {ms : List (Move cancelling Unit)} {s s' : CallState} {i : ℕ}
    {e : Event cancelling} (h : Justified ms s) (hallow : cancelMonitor.allows (seen i ms) e)
    (hresponse : e = ⟨.doRequest, .response⟩ → s.overdue = false)
    (hpoll : e = ⟨.poll, false⟩ → s.returned ≠ some .response)
    (hstep : cancelMachine.answer s e.op e.ans = some s') : Justified (ms ++ [.thread i e]) s' := by
  rcases cancelMachine_cases hstep with ⟨r, rfl, rfl⟩ | ⟨rfl, rfl⟩ | ⟨rfl, -, rfl⟩ | ⟨rfl, rfl⟩ | hq
  · -- only the caller asks, and only once
    have hi : i = 0 := by
      have hcaller := hallow.1
      rw [h.caller] at hcaller
      exact of_decide_eq_true hcaller
    subst hi
    have hnone : s.returned = none := by
      rw [← h.returned]
      exact hallow.2
    have hlate : ∀ j, (seen j (ms ++ [.thread 0 ⟨.doRequest, r⟩])).late = (seen j ms).late :=
      seen_thread_same (f := Seen.late) fun _ => rfl
    refine ⟨fun j => ?_, ?_, fun j hj => ?_, fun j hj => ?_, fun ho hr => ?_, fun hc => ?_⟩
    · rw [seen_thread_same (f := Seen.isCaller) fun _ => rfl]
      exact h.caller j
    · rw [seen_self]
      rfl
    · rw [seen_ne hj.symm]
      exact h.others j hj
    · rw [hlate] at hj
      exact h.late j hj
    · cases Option.some.inj hr
      rw [hresponse rfl] at ho
      cases ho
    · rcases h.sent hc with hr | ho
      · rw [hnone] at hr
        cases hr
      · exact Or.inr ho
  · have hreturned : ∀ j, (seen j (ms ++ [.thread i ⟨.poll, false⟩])).returned = (seen j ms).returned :=
      seen_thread_same (f := Seen.returned) fun _ => rfl
    refine ⟨fun j => ?_, ?_, fun j hj => ?_, fun _ _ => rfl, fun _ => hpoll rfl, fun _ => Or.inr rfl⟩
    · rw [seen_thread_same (f := Seen.isCaller) fun _ => rfl]
      exact h.caller j
    · rw [hreturned]
      exact h.returned
    · rw [hreturned]
      exact h.others j hj
  · exact h.of_same (seen_thread_same (f := Seen.isCaller) fun _ => rfl)
      (seen_thread_same (f := Seen.returned) fun _ => rfl) (seen_thread_same (f := Seen.late) fun _ => rfl)
      rfl rfl h.sent
  · refine h.of_same (seen_thread_same (f := Seen.isCaller) fun _ => rfl)
      (seen_thread_same (f := Seen.returned) fun _ => rfl) (seen_thread_same (f := Seen.late) fun _ => rfl)
      rfl rfl fun _ => ?_
    rcases hallow.2 with hr | hl
    · by_cases hi : i = 0
      · subst hi
        rw [h.returned] at hr
        exact Or.inl hr
      · rw [h.others i hi] at hr
        cases hr
    · exact Or.inr (h.late i hl)
  · refine h.of_same (seen_thread_same (f := Seen.isCaller) fun sn => by rw [hq.next])
      (seen_thread_same (f := Seen.returned) fun sn => by rw [hq.next])
      (seen_thread_same (f := Seen.late) fun sn => by rw [hq.next]) hq.returned hq.overdue ?_
    rw [hq.cancels]
    exact h.sent

/-- Where nothing races, no request that got a response is cancelled. -/
theorem cancels_eq_zero {b : Bool} {ms : List (Move cancelling Unit)}
    {c : Pool cancelling Empty Unit CallState}
    (h : Pool.run cancelMachine unraced (cancelCall b) ms = some c)
    (hresponse : c.shared.returned = some .response) : c.shared.cancels = 0 := by
  have hinv : Justified ms c.shared := by
    refine Pool.run_induction (P := fun ms c => Justified ms c.shared) ?_ ?_ h
    · refine ⟨fun _ => rfl, rfl, fun _ _ => rfl, fun _ hl => ?_, fun ho => ?_, fun hc => ?_⟩
      · cases hl
      · cases ho
      · exact absurd rfl hc
    · intro ms c₁ m c₂ hrun ih hguard hstep
      cases m with
      | drift d =>
        obtain ⟨s, hs, rfl⟩ := (Pool.step_drift (M := cancelMachine)).mp hstep
        cases hs
        exact ih.of_same (fun i => by rw [seen_drift]) (fun i => by rw [seen_drift])
          (fun i => by rw [seen_drift]) rfl rfl ih.sent
      | thread i e =>
        have hallow := Pool.step_allowed (obeys_cancelCall b i) hrun hstep
        obtain ⟨k, s, -, hs, rfl⟩ := (Pool.step_thread (M := cancelMachine)).mp hstep
        refine ih.thread hallow (fun he => ?_) (fun he => ?_) hs
        · subst he
          simpa [unraced] using hguard
        · subst he
          simpa [unraced] using hguard
  by_contra hne
  rcases hinv.sent hne with hr | ho
  · rw [hresponse] at hr
    cases hr
  · exact hinv.safe ho hresponse

/-- **The cancel protocol.** No interleaving sends two cancel requests, and
where `client.Do` and the watcher's second look do not race, none is sent for a
request that got a response. -/
theorem cancelProtocol (b : Bool) (ms : List (Move cancelling Unit))
    (c : Pool cancelling Empty Unit CallState) :
    (Pool.run cancelMachine (fun _ _ _ => true) (cancelCall b) ms = some c → c.shared.cancels ≤ 1) ∧
      (Pool.run cancelMachine unraced (cancelCall b) ms = some c →
        c.shared.returned = some .response → c.shared.cancels = 0) :=
  ⟨cancels_le_one, cancels_eq_zero⟩

namespace Demo

/-- The response arrives, and the context ends before `done` is closed. -/
def lateDeadline : List (Move cancelling Unit) :=
  [.thread 0 ⟨.start, ()⟩, .thread 0 ⟨.newRequest, true⟩, .thread 1 ⟨.started, ()⟩,
    .thread 0 ⟨.doRequest, .response⟩, .drift (), .thread 1 ⟨.select, .ended⟩, .thread 1 ⟨.poll, false⟩,
    .thread 0 ⟨.closeDone, ()⟩, .thread 1 ⟨.onceEnter, true⟩, .thread 1 ⟨.postCancel, ()⟩]

/-- The watcher cancels a request that the signer has answered. -/
theorem cancels_answered : ¬ ∀ (ms : List (Move cancelling Unit)) (c : Pool cancelling Empty Unit CallState),
    Pool.run cancelMachine (fun _ _ _ => true) (cancelCall true) ms = some c →
      c.shared.cancels ≤ 1 ∧ (c.shared.returned = some .response → c.shared.cancels = 0) := by
  intro h
  have hlast := (h lateDeadline _ rfl).2 rfl
  cases hlast

/-- The context ends behind `close(done)`. -/
def closedInTime : List (Move cancelling Unit) :=
  [.thread 0 ⟨.start, ()⟩, .thread 0 ⟨.newRequest, true⟩, .thread 1 ⟨.started, ()⟩,
    .thread 0 ⟨.doRequest, .response⟩, .thread 0 ⟨.closeDone, ()⟩, .drift (), .thread 1 ⟨.select, .ended⟩,
    .thread 1 ⟨.poll, true⟩, .thread 0 ⟨.cancelContext, ()⟩]

theorem cancelProtocol_closedInTime : ∃ c, Pool.run cancelMachine unraced (cancelCall true) closedInTime = some c ∧
    c.shared.returned = some .response ∧ c.shared.cancels = 0 :=
  ⟨_, rfl, rfl, (cancelProtocol true closedInTime _).2 rfl rfl⟩

end Demo

end AplaneSdk
