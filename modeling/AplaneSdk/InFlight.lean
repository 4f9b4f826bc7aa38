/-
# One signing request at a time

`ApsignerAccount` of Python keeps the id of the request in flight in a slot
behind a lock, so that `cancel()` can be called from another thread while the
signer waits for approval. `_begin_sign` takes the slot or raises, a `finally`
gives it back, and `cancel()` reads it. Any number of threads call the two in
any order, and the lock makes each access one step. In every interleaving,
whatever the calls in between return or raise, the slot is the request of the
one call that holds it.

Key definitions: `SlotOp`, `signCall`, `cancelInFlight`, `session`, `slotMachine`,
`slotMonitor`, `OneHolder`.
Key theorems: `obeys_session`, `oneHolder_run`, `read_run`, `inFlight_slot`.
-/
import AplaneSdk.Lib.Threads
import AplaneSdk.AlgoKit

namespace AplaneSdk

open Interaction Interaction.Prog Checks

/-! ### The calls -/

/-- What `cancel_sign_request` raises: its own errors and those of the
transport are tolerated. -/
inductive CancelFailure
  | signerError
  | osError
  | other (e : SdkError)

/-- The steps of a thread. `called` and `returned` mark where a call of the
signer starts and how it ends. -/
inductive SlotOp
  | called
  /-- `self._new_request_id()`. -/
  | newRequestId
  /-- The critical section of `_begin_sign`: whether the slot was free. -/
  | begin (requestId : String)
  | signRequests (request : GroupSignRequest)
  /-- The critical section of `_end_sign`. -/
  | endSign (requestId : String)
  | returned (outcome : Except SdkError (List Bytes))
  /-- The critical section of `cancel`. -/
  | readSlot
  | cancelSignRequest (requestId : String)
  deriving DecidableEq

@[reducible] def SlotOp.Ans : SlotOp → Type
  | newRequestId => Except SdkError String
  | begin _ => Bool
  | signRequests _ => Except SdkError (Reply Json)
  | readSlot => Option String
  | cancelSignRequest _ => Option CancelFailure
  | _ => Unit

abbrev slots : Iface := ⟨SlotOp, SlotOp.Ans⟩

abbrev SlotFlow := Prog slots SdkError

def errInFlight : SdkError :=
  { kind := .type, text := "ApsignerAccount already has an in-flight signing request" }

section Calls

variable {τ : Type} (env : Env) (account : ApsignerAccount τ)

/-- `_begin_sign`. -/
def beginSign : SlotFlow String := do
  let requestId ← query (I := slots) .newRequestId
  let requestId ← liftM (requestId : Except SdkError String)
  let free ← query (I := slots) (.begin requestId)
  if free then pure requestId else throw errInFlight

/-- The body of the `try` in `_sign`. -/
def signBody (requestId : String) (group : List (Option τ)) (indexes : List ℤ) : SlotFlow (List Bytes) := do
  let requests ← liftM (mapEach (fun _ => signEntryAt (Python.adapter env) account group) 0 indexes)
  let reply ← query (I := slots) (.signRequests { requestId := requestId, requests := requests })
  let reply ← liftM (reply : Except SdkError (Reply Json))
  liftM ((Python.adapter env).sign env account false requestId group indexes reply)

/-- `_sign`. -/
def signCall (group : List (Option τ)) (indexes : List ℤ) : SlotFlow (List Bytes) :=
  if indexes = [] then pure []
  else do
    let requestId ← beginSign
    (signBody env account requestId group indexes).finallyDo (query (I := slots) (.endSign requestId))

/-- `cancel`. -/
def cancelInFlight : SlotFlow Unit := do
  let requestId ← query (I := slots) .readSlot
  match requestId with
  | none => pure ()
  | some requestId =>
    let failure ← query (I := slots) (.cancelSignRequest requestId)
    match failure with
    | some (.other e) => throw e
    | _ => pure ()

/-- What a thread calls. -/
inductive SlotCall (τ : Type)
  | sign (group : List (Option τ)) (indexes : List ℤ)
  | cancel

/-- One call, from its start to its return. -/
def runCall : SlotCall τ → SlotFlow Unit
  | .sign group indexes => do
    query (I := slots) .called
    let outcome ← (signCall env account group indexes).attempt
    query (I := slots) (.returned outcome)
  | .cancel => do
    let _ ← cancelInFlight.attempt
    pure ()

/-- A thread: calls one after the other, whatever they raise. -/
def session : List (SlotCall τ) → SlotFlow Unit
  | [] => pure ()
  | call :: calls => do
    runCall env account call
    session calls

end Calls

/-- The slot. Only the lock-protected steps look at it. -/
def slotMachine : Machine slots Empty (Option String) where
  answer current
    | .begin requestId, free =>
      if free = current.isNone then some (if free then some requestId else current) else none
    | .endSign requestId, () => some (if current = some requestId then none else current)
    | .readSlot, found => if found = current then some current else none
    | _, _ => some current
  drift _ d := nomatch d

/-- The account, and the threads that use it. -/
def slotPool {τ : Type} (env : Env) (account : ApsignerAccount τ) (sessions : List (List (SlotCall τ))) :
    Pool slots SdkError Unit (Option String) where
  shared := none
  threads := sessions.map (session env account)

/-! ### What each thread knows -/

/-- What a thread has seen by itself. -/
structure SlotView where
  /-- It is inside a call of the signer. -/
  calling : Bool := false
  /-- The request it is between begin and end of. -/
  held : Option String := none
  /-- Its call found the slot taken. -/
  refused : Bool := false
  /-- What it read from the slot just now. -/
  read : Option String := none

def slotMonitor : Monitor slots SlotView where
  next s
    | ⟨.called, _⟩ => { calling := true }
    | ⟨.begin requestId, true⟩ => { s with held := some requestId, read := none }
    | ⟨.begin _, false⟩ => { s with refused := true, read := none }
    | ⟨.endSign _, _⟩ => { s with held := none, read := none }
    | ⟨.returned _, _⟩ => {}
    | ⟨.readSlot, found⟩ => { s with read := found }
    | _ => { s with read := none }
  allows s e := match e.op with
    | .called => s.held = none
    | .begin _ => s.calling = true ∧ s.held = none
    | .endSign requestId => s.held = some requestId
    | .returned outcome => s.held = none ∧ (s.refused = true → outcome = .error errInFlight)
    | .cancelSignRequest requestId => s.read = some requestId
    | _ => True

section Local

variable {τ : Type} {env : Env} {account : ApsignerAccount τ} {s : SlotView} {t : Trace slots}
  {requestId : String} {group : List (Option τ)} {indexes : List ℤ}

/-- The body of the `try` asks the client and nobody else. -/
theorem emits_signBody : Emits (fun e : Event slots => ∃ request a, e = ⟨.signRequests request, a⟩)
    (signBody env account requestId group indexes) := by
  refine emits_lift_bind fun requests _ => emits_bind (emits_query fun a => ⟨_, a, rfl⟩) fun reply => ?_
  exact emits_lift_bind fun reply _ => emits_lift _

/-- Asking the client changes nothing a thread knows of the slot. -/
theorem after_signRequests (h : ∀ e ∈ t, ∃ request a, e = (⟨.signRequests request, a⟩ : Event slots)) :
    (slotMonitor.after s t).held = s.held ∧ (slotMonitor.after s t).refused = s.refused := by
  induction t using List.reverseRecOn with
  | nil => exact ⟨rfl, rfl⟩
  | append_singleton t e ih =>
    obtain ⟨request, a, rfl⟩ := h e (by simp)
    obtain ⟨hheld, hrefused⟩ := ih fun e he => h e (List.mem_append_left _ he)
    rw [Monitor.after_snoc]
    exact ⟨hheld, hrefused⟩

/-- A begin that succeeds holds the slot. -/
theorem after_beginSign (h : Runs beginSign t (.ok requestId)) :
    (slotMonitor.after s t).held = some requestId ∧ (slotMonitor.after s t).refused = s.refused := by
  obtain ⟨answer, t₁, rfl, hlift⟩ := runs_query_bind.mp h
  obtain ⟨id, -, hbegin⟩ := runs_lift_bind_ok.mp hlift
  obtain ⟨free, t₂, rfl, hrest⟩ := runs_query_bind.mp hbegin
  cases free with
  | false => cases hrest.2
  | true =>
    obtain ⟨rfl, hid⟩ := hrest
    cases hid
    exact ⟨rfl, rfl⟩

/-- One that fails does not, and says so if the slot was taken. -/
theorem after_beginSign_error {e : SdkError} (h : Runs beginSign t (.error e))
    (hheld : s.held = none) (hrefused : s.refused = false) :
    (slotMonitor.after s t).held = none ∧ ((slotMonitor.after s t).refused = true → e = errInFlight) := by
  obtain ⟨answer, t₁, rfl, hlift⟩ := runs_query_bind.mp h
  rcases runs_lift_bind.mp hlift with ⟨_, -, rfl, -⟩ | ⟨id, -, hbegin⟩
  · refine ⟨hheld, fun href => ?_⟩
    have hidle : (slotMonitor.after s [⟨.newRequestId, answer⟩]).refused = false := hrefused
    rw [hidle] at href
    cases href
  · obtain ⟨free, t₂, rfl, hrest⟩ := runs_query_bind.mp hbegin
    cases free with
    | false =>
      obtain ⟨rfl, he⟩ := hrest
      cases he
      exact ⟨hheld, fun _ => rfl⟩
    | true => cases hrest.2

theorem obeys_signBody : Obeys slotMonitor s (signBody env account requestId group indexes) := by
  refine obeys_lift_bind fun requests _ => obeys_query_bind fun answer => ⟨trivial, ?_⟩
  exact obeys_lift_bind fun reply _ => obeys_done _

/-- The call keeps the order of begin and end. -/
theorem obeys_signCall (hcalling : s.calling = true) (hheld : s.held = none) :
    Obeys slotMonitor s (signCall env account group indexes) := by
  unfold signCall
  by_cases h : indexes = []
  · rw [if_pos h]
    exact obeys_done _
  · rw [if_neg h]
    refine obeys_bind ?_ fun t requestId ht => ?_
    · refine obeys_query_bind fun answer => ⟨trivial, obeys_lift_bind fun requestId _ => ?_⟩
      refine obeys_query_bind fun free => ⟨⟨hcalling, hheld⟩, ?_⟩
      cases free with
      | false => exact obeys_done _
      | true => exact obeys_done _
    · have hbegun := after_beginSign (s := s) ht
      refine obeys_bind (obeys_attempt obeys_signBody) fun t' r ht' => ?_
      obtain ⟨r', hbody, -⟩ := runs_attempt.mp ht'
      refine obeys_query_bind fun _ => ⟨?_, obeys_done _⟩
      show (slotMonitor.after _ t').held = some requestId
      rw [(after_signRequests (emits_signBody _ _ hbody)).1, hbegun.1]

/-- Whatever happens in it, the call ends without holding the slot, and one
that found the slot taken raises. -/
theorem after_signCall {outcome : Except SdkError (List Bytes)}
    (h : Runs (signCall env account group indexes) t outcome) (hheld : s.held = none)
    (hrefused : s.refused = false) :
    (slotMonitor.after s t).held = none ∧
      ((slotMonitor.after s t).refused = true → outcome = .error errInFlight) := by
  unfold signCall at h
  by_cases hempty : indexes = []
  · rw [if_pos hempty] at h
    obtain ⟨rfl, rfl⟩ := h
    refine ⟨hheld, fun href => ?_⟩
    rw [show slotMonitor.after s [] = s from rfl, hrefused] at href
    cases href
  · rw [if_neg hempty] at h
    rcases runs_bind.mp h with ⟨e, hbegin, rfl⟩ | ⟨requestId, t₁, t₂, rfl, hbegin, hrest⟩
    · obtain ⟨hout, href⟩ := after_beginSign_error hbegin hheld hrefused
      exact ⟨hout, fun h => by rw [href h]⟩
    · obtain ⟨-, hbegun⟩ := after_beginSign (s := s) hbegin
      obtain ⟨r, t₃, t₄, rfl, hbody, hend⟩ := runs_finallyDo.mp hrest
      have hended : t₄ = [⟨.endSign requestId, ()⟩] := by
        rcases hend with ⟨e, hq, -⟩ | ⟨hq, -⟩
        · obtain ⟨_, -, hq⟩ := runs_query.mp hq
          cases hq
        · obtain ⟨_, rfl, -⟩ := runs_query.mp hq
          rfl
      obtain ⟨-, hquiet⟩ := after_signRequests (s := slotMonitor.after s t₁) (emits_signBody _ _ hbody)
      have hafter : slotMonitor.after s (t₁ ++ (t₃ ++ t₄)) =
          { slotMonitor.after (slotMonitor.after s t₁) t₃ with held := none, read := none } := by
        rw [hended, ← List.append_assoc, Monitor.after_snoc, Monitor.after, List.foldl_append]
        rfl
      rw [hafter]
      refine ⟨rfl, fun href => ?_⟩
      rw [show SlotView.refused { slotMonitor.after (slotMonitor.after s t₁) t₃ with
        held := none, read := none } = _ from hquiet, hbegun, hrefused] at href
      cases href

theorem obeys_cancelInFlight : Obeys slotMonitor s cancelInFlight := by
  refine obeys_query_bind fun found => ⟨trivial, ?_⟩
  cases found with
  | none => exact obeys_done _
  | some requestId =>
    refine obeys_query_bind fun failure => ⟨rfl, ?_⟩
    rcases failure with _ | ⟨⟨⟩ | ⟨⟩ | ⟨e⟩⟩ <;> exact obeys_done _

theorem after_cancelInFlight {outcome : Except SdkError Unit} (h : Runs cancelInFlight t outcome) :
    (slotMonitor.after s t).held = s.held := by
  obtain ⟨found, t₁, rfl, hfound⟩ := runs_query_bind.mp h
  cases found with
  | none =>
    obtain ⟨rfl, -⟩ := hfound
    rfl
  | some requestId =>
    obtain ⟨failure, t₂, rfl, hrest⟩ := runs_query_bind.mp hfound
    have hnil : t₂ = [] := by
      rcases failure with _ | ⟨⟨⟩ | ⟨⟩ | ⟨e⟩⟩ <;> exact hrest.1
    subst hnil
    rfl

theorem obeys_runCall (call : SlotCall τ) (hheld : s.held = none) :
    Obeys slotMonitor s (runCall env account call) := by
  cases call with
  | sign group indexes =>
    refine obeys_query_bind fun _ => ⟨hheld, obeys_bind (obeys_attempt (obeys_signCall rfl rfl)) ?_⟩
    intro t outcome ht
    obtain ⟨_, hrun, he⟩ := runs_attempt.mp ht
    cases he
    exact obeys_query fun _ => after_signCall hrun rfl rfl
  | cancel => exact obeys_bind (obeys_attempt obeys_cancelInFlight) fun _ _ _ => obeys_done _

theorem after_runCall {call : SlotCall τ} (h : Runs (runCall env account call) t (.ok ()))
    (hheld : s.held = none) : (slotMonitor.after s t).held = none := by
  cases call with
  | sign group indexes =>
    obtain ⟨_, t₁, rfl, hcall⟩ := runs_query_bind.mp h
    obtain ⟨outcome, t₂, t₃, rfl, -, hreturn⟩ := runs_bind_ok.mp hcall
    obtain ⟨_, rfl, -⟩ := runs_query.mp hreturn
    rw [← List.cons_append, Monitor.after_snoc]
    rfl
  | cancel =>
    obtain ⟨outcome, t₁, t₂, rfl, hcancel, rfl, -⟩ := runs_bind_ok.mp h
    obtain ⟨_, hrun, -⟩ := runs_attempt.mp hcancel
    rw [List.append_nil, after_cancelInFlight hrun]
    exact hheld

theorem obeys_session (calls : List (SlotCall τ)) (hheld : s.held = none) :
    Obeys slotMonitor s (session env account calls) := by
  induction calls generalizing s with
  | nil => exact obeys_done _
  | cons call calls ih =>
    exact obeys_bind (obeys_runCall call hheld) fun t _ ht => ih (after_runCall ht hheld)

end Local

/-! ### The slot and its holder -/

/-- What thread `i` has seen. -/
def slotView (i : ℕ) (ms : List (Move slots Empty)) : SlotView := slotMonitor.after {} (eventsOf i ms)

theorem slotView_self (i : ℕ) (ms : List (Move slots Empty)) (e : Event slots) :
    slotView i (ms ++ [.thread i e]) = slotMonitor.next (slotView i ms) e := by
  rw [slotView, eventsOf_self, Monitor.after_snoc]
  rfl

theorem slotView_ne {i j : ℕ} (h : j ≠ i) (ms : List (Move slots Empty)) (e : Event slots) :
    slotView i (ms ++ [.thread j e]) = slotView i ms := by
  rw [slotView, eventsOf_ne h]
  rfl

/-- An event that leaves the slot and its holder alone. -/
structure SlotQuiet (e : Event slots) : Prop where
  held : ∀ s, slotMonitor.allows s e → (slotMonitor.next s e).held = s.held
  calling : ∀ s, slotMonitor.allows s e → s.held ≠ none → (slotMonitor.next s e).calling = s.calling

theorem slotMachine_cases {current current' : Option String} {e : Event slots}
    (h : slotMachine.answer current e.op e.ans = some current') :
    (∃ requestId, e = ⟨.begin requestId, true⟩ ∧ current = none ∧ current' = some requestId) ∨
      (∃ requestId, e = ⟨.endSign requestId, ()⟩ ∧
        current' = if current = some requestId then none else current) ∨
      current' = current ∧ SlotQuiet e := by
  obtain ⟨o, a⟩ := e
  cases o with
  | begin requestId =>
    simp only [slotMachine, Option.ite_none_right_eq_some, Option.some.injEq] at h
    obtain ⟨hfree, rfl⟩ := h
    cases a with
    | true => exact Or.inl ⟨requestId, rfl, Option.isNone_iff_eq_none.mp hfree.symm, rfl⟩
    | false => exact Or.inr (Or.inr ⟨rfl, fun _ _ => rfl, fun _ _ _ => rfl⟩)
  | endSign requestId =>
    simp only [slotMachine, Option.some.injEq] at h
    exact Or.inr (Or.inl ⟨requestId, rfl, h.symm⟩)
  | readSlot =>
    simp only [slotMachine, Option.ite_none_right_eq_some, Option.some.injEq] at h
    obtain ⟨-, rfl⟩ := h
    exact Or.inr (Or.inr ⟨rfl, fun _ _ => rfl, fun _ _ _ => rfl⟩)
  | called =>
    cases h
    exact Or.inr (Or.inr ⟨rfl, fun s hs => (show s.held = none from hs).symm,
      fun s hs hne => absurd hs hne⟩)
  | returned outcome =>
    cases h
    exact Or.inr (Or.inr ⟨rfl, fun s hs => (show s.held = none from hs.1).symm,
      fun s hs hne => absurd hs.1 hne⟩)
  | newRequestId | signRequests _ | cancelSignRequest _ =>
    cases h
    exact Or.inr (Or.inr ⟨rfl, fun _ _ => rfl, fun _ _ _ => rfl⟩)

/-- The slot is the request of the one thread between begin and end, and that
thread is inside a call of the signer. -/
structure OneHolder (ms : List (Move slots Empty)) (current : Option String) : Prop where
  holder : ∀ i requestId, (slotView i ms).held = some requestId → current = some requestId
  alone : ∀ i j, (slotView i ms).held ≠ none → (slotView j ms).held ≠ none → i = j
  owned : ∀ requestId, current = some requestId → ∃ i, (slotView i ms).held = some requestId
  calls : ∀ i, (slotView i ms).held ≠ none → (slotView i ms).calling = true

theorem OneHolder.thread {ms : List (Move slots Empty)} {current current' : Option String} {i : ℕ}
    {e : Event slots} (h : OneHolder ms current) (hallow : slotMonitor.allows (slotView i ms) e)
    (hstep : slotMachine.answer current e.op e.ans = some current') :
    OneHolder (ms ++ [.thread i e]) current' := by
  have hother : ∀ j, j ≠ i → slotView j (ms ++ [.thread i e]) = slotView j ms :=
    fun j hj => slotView_ne hj.symm ms e
  rcases slotMachine_cases hstep with ⟨requestId, rfl, rfl, rfl⟩ | ⟨requestId, rfl, rfl⟩ | ⟨rfl, hquiet⟩
  · -- nobody held the slot, and now thread `i` does
    have hnone : ∀ j, (slotView j ms).held = none := by
      intro j
      by_contra hheld
      obtain ⟨id, hid⟩ := Option.ne_none_iff_exists'.mp hheld
      have := h.holder j id hid
      cases this
    have hself : slotView i (ms ++ [.thread i ⟨.begin requestId, true⟩]) =
        { slotView i ms with held := some requestId, read := none } := slotView_self i ms _
    refine ⟨fun j id hj => ?_, fun j k hj hk => ?_, fun id hid => ⟨i, ?_⟩, fun j hj => ?_⟩
    · by_cases hji : j = i
      · subst hji
        rw [hself] at hj
        exact hj
      · rw [hother j hji, hnone] at hj
        cases hj
    · have hi : ∀ j, (slotView j (ms ++ [.thread i ⟨.begin requestId, true⟩])).held ≠ none → j = i := by
        intro j hj
        by_contra hji
        rw [hother j hji] at hj
        exact hj (hnone j)
      rw [hi j hj, hi k hk]
    · rw [hself]
      exact hid
    · by_cases hji : j = i
      · subst hji
        rw [hself]
        exact hallow.1
      · rw [hother j hji] at hj
        exact absurd (hnone j) hj
  · -- thread `i` held the slot, and now nobody does
    have hheld : (slotView i ms).held = some requestId := hallow
    have hslot := h.holder i requestId hheld
    rw [if_pos hslot]
    have hnone : ∀ j, (slotView j (ms ++ [.thread i ⟨.endSign requestId, ()⟩])).held = none := by
      intro j
      by_cases hji : j = i
      · subst hji
        rw [slotView_self]
        rfl
      · rw [hother j hji]
        by_contra hj
        exact hji (h.alone j i hj (by rw [hheld]; exact Option.some_ne_none _))
    refine ⟨fun j id hj => ?_, fun j k hj => absurd (hnone j) hj, fun id hid => (by cases hid),
      fun j hj => absurd (hnone j) hj⟩
    rw [hnone] at hj
    cases hj
  · have hheld : ∀ j, (slotView j (ms ++ [.thread i e])).held = (slotView j ms).held := by
      intro j
      by_cases hji : j = i
      · subst hji
        rw [slotView_self]
        exact hquiet.held _ hallow
      · rw [hother j hji]
    refine ⟨fun j id hj => ?_, fun j k hj hk => ?_, fun id hid => ?_, fun j hj => ?_⟩
    · rw [hheld] at hj
      exact h.holder j id hj
    · rw [hheld] at hj hk
      exact h.alone j k hj hk
    · obtain ⟨j, hj⟩ := h.owned id hid
      exact ⟨j, (hheld j).trans hj⟩
    · rw [hheld] at hj
      by_cases hji : j = i
      · subst hji
        rw [slotView_self, hquiet.calling _ hallow hj]
        exact h.calls j hj
      · rw [hother j hji]
        exact h.calls j hj

section Global

variable {τ : Type} {env : Env} {account : ApsignerAccount τ} {sessions : List (List (SlotCall τ))}
  {ms : List (Move slots Empty)} {c c' : Pool slots SdkError Unit (Option String)} {i : ℕ} {e : Event slots}

theorem obeys_slotPool (i : ℕ) : ∀ p, (slotPool env account sessions).threads[i]? = some p →
    Obeys slotMonitor {} p := by
  intro p hp
  rw [slotPool, List.getElem?_map, Option.map_eq_some_iff] at hp
  obtain ⟨calls, -, rfl⟩ := hp
  exact obeys_session calls rfl

theorem slot_step_allowed (h : Pool.run slotMachine (fun _ _ _ => true) (slotPool env account sessions) ms = some c)
    (hstep : c.step slotMachine (.thread i e) = some c') : slotMonitor.allows (slotView i ms) e :=
  Pool.step_allowed (obeys_slotPool i) h hstep

theorem slot_step_answer (hstep : c.step slotMachine (.thread i e) = some c') :
    slotMachine.answer c.shared e.op e.ans = some c'.shared := by
  obtain ⟨k, s, -, hs, rfl⟩ := (Pool.step_thread (M := slotMachine)).mp hstep
  exact hs

/-- In every interleaving the slot has at most one holder. -/
theorem oneHolder_run
    (h : Pool.run slotMachine (fun _ _ _ => true) (slotPool env account sessions) ms = some c) :
    OneHolder ms c.shared := by
  refine Pool.run_induction (P := fun ms c => OneHolder ms c.shared) ?_ ?_ h
  · exact ⟨fun _ _ hi => (by cases hi), fun _ _ hi => absurd rfl hi, fun _ hid => (by cases hid),
      fun _ hi => absurd rfl hi⟩
  · intro ms c₁ m c₂ hrun ih _ hstep
    cases m with
    | drift d => cases d
    | thread i e => exact ih.thread (slot_step_allowed hrun hstep) (slot_step_answer hstep)

/-- What a thread read last was in flight when it read it. -/
theorem read_run
    (h : Pool.run slotMachine (fun _ _ _ => true) (slotPool env account sessions) ms = some c)
    {requestId : String} (hread : (slotView i ms).read = some requestId) :
    ∃ before after, ms = before ++ .thread i (⟨.readSlot, some requestId⟩ : Event slots) :: after ∧ eventsOf i after = [] ∧
      ∃ j, (slotView j before).held = some requestId := by
  revert hread
  refine Pool.run_induction (P := fun ms _ => (slotView i ms).read = some requestId →
    ∃ before after, ms = before ++ .thread i (⟨.readSlot, some requestId⟩ : Event slots) :: after ∧ eventsOf i after = [] ∧
      ∃ j, (slotView j before).held = some requestId) (fun hread => by cases hread) ?_ h
  intro ms c₁ m c₂ hrun ih _ hstep hread
  cases m with
  | drift d => cases d
  | thread j e =>
    by_cases hj : j = i
    · subst hj
      rw [slotView_self] at hread
      obtain ⟨o, a⟩ := e
      cases o with
      | readSlot =>
        have hfound : a = c₁.shared := by
          have hanswer := slot_step_answer hstep
          simp only [slotMachine, Option.ite_none_right_eq_some] at hanswer
          exact hanswer.1
        have hread : a = some requestId := hread
        subst hread
        exact ⟨ms, [], rfl, rfl, (oneHolder_run hrun).owned requestId hfound.symm⟩
      | begin id => cases a <;> cases hread
      | called | newRequestId | signRequests _ | endSign _ | returned _ | cancelSignRequest _ => cases hread
    · rw [slotView_ne hj] at hread
      obtain ⟨before, after, rfl, hafter, hheld⟩ := ih hread
      refine ⟨before, after ++ [.thread j e], by simp, ?_, hheld⟩
      rw [eventsOf_ne hj, hafter]

end Global

/-- **One signing request at a time.** In every interleaving of any number of
threads, whatever the calls return or raise: at most one thread is between
begin and end; the slot is empty when no thread is inside the signer; a call
that finds the slot taken leaves it as it is and raises; an end gives back the
slot of its own call; and `cancel` sends an id that was in flight when it read
the slot. -/
theorem inFlight_slot {τ : Type} (env : Env) (account : ApsignerAccount τ)
    (sessions : List (List (SlotCall τ))) (ms : List (Move slots Empty))
    (c : Pool slots SdkError Unit (Option String))
    (h : Pool.run slotMachine (fun _ _ _ => true) (slotPool env account sessions) ms = some c) :
    (∀ i j, (slotView i ms).held ≠ none → (slotView j ms).held ≠ none → i = j) ∧
    ((∀ i, (slotView i ms).calling = false) → c.shared = none) ∧
    ∀ i e c', c.step slotMachine (.thread i e) = some c' →
      (∀ requestId, e = ⟨.begin requestId, false⟩ → c.shared ≠ none ∧ c'.shared = c.shared) ∧
      (∀ outcome, e = ⟨.returned outcome, ()⟩ → (slotView i ms).refused = true →
        outcome = .error errInFlight) ∧
      (∀ requestId, e = ⟨.endSign requestId, ()⟩ →
        (slotView i ms).held = some requestId ∧ c.shared = some requestId ∧
          ∀ j, j ≠ i → (slotView j ms).held = none) ∧
      ∀ requestId failure, e = ⟨.cancelSignRequest requestId, failure⟩ →
        ∃ before after, ms = before ++ .thread i (⟨.readSlot, some requestId⟩ : Event slots) :: after ∧
          eventsOf i after = [] ∧ ∃ j, (slotView j before).held = some requestId := by
  have hone := oneHolder_run h
  refine ⟨hone.alone, fun hidle => ?_, fun i e c' hstep => ⟨?_, ?_, ?_, ?_⟩⟩
  · cases hslot : c.shared with
    | none => rfl
    | some requestId =>
      obtain ⟨i, hi⟩ := hone.owned requestId hslot
      have hcalling := hone.calls i (by rw [hi]; exact Option.some_ne_none _)
      rw [hidle i] at hcalling
      cases hcalling
  · rintro requestId rfl
    have hanswer := slot_step_answer hstep
    simp only [slotMachine, Option.ite_none_right_eq_some, Option.some.injEq] at hanswer
    obtain ⟨hfree, hsame⟩ := hanswer
    refine ⟨fun hnone => ?_, hsame.symm⟩
    rw [hnone] at hfree
    cases hfree
  · rintro outcome rfl
    exact (slot_step_allowed h hstep).2
  · rintro requestId rfl
    have hheld : (slotView i ms).held = some requestId := slot_step_allowed h hstep
    refine ⟨hheld, hone.holder i requestId hheld, fun j hj => ?_⟩
    by_contra hother
    exact hj (hone.alone j i hother (by rw [hheld]; exact Option.some_ne_none _))
  · rintro requestId failure rfl
    exact read_run h (slot_step_allowed h hstep)

namespace Demo

def unitAccount : ApsignerAccount Unit where
  authAddress := payer
  encodeTransaction _ := .ok []
  txnSender _ := .ok payer

/-- Two threads that sign and one that cancels. -/
noncomputable def contended : Pool slots SdkError Unit (Option String) :=
  slotPool Demo.env unitAccount [[.sign [some ()] [0]], [.sign [some ()] [0]], [.cancel]]

/-- The first takes the slot, the second finds it taken, the third reads it. -/
def contention : List (Move slots Empty) :=
  [.thread 0 ⟨.called, ()⟩, .thread 0 ⟨.newRequestId, .ok "sdk-1"⟩, .thread 0 ⟨.begin "sdk-1", true⟩,
   .thread 1 ⟨.called, ()⟩, .thread 1 ⟨.newRequestId, .ok "sdk-2"⟩, .thread 1 ⟨.begin "sdk-2", false⟩,
   .thread 2 ⟨.readSlot, some "sdk-1"⟩]

theorem contention_runs : (Pool.run slotMachine (fun _ _ _ => true) contended contention).isSome = true := by
  decide +kernel

theorem inFlight_slot_contention :
    ∃ c, Pool.run slotMachine (fun _ _ _ => true) contended contention = some c ∧
      ∀ i j, (slotView i contention).held ≠ none → (slotView j contention).held ≠ none → i = j := by
  obtain ⟨c, hc⟩ := Option.isSome_iff_exists.mp contention_runs
  exact ⟨c, hc, (inFlight_slot Demo.env unitAccount _ contention c hc).1⟩

end Demo

end AplaneSdk
