/-
# A shared state and what each program has seen

Where programs share a state, an invariant often ties the state to what each
program knows from its own events, as a monitor records it. If every program
obeys the monitor, it is enough that each event the monitor allows keeps the
invariant: the programs themselves need not be looked at again.

Key definitions: `views`.
Key theorems: `Monitor.after_flag`, `Monitor.after_count`, `Pool.run_views`.
-/
import Mathlib.Logic.Function.Basic
import AplaneSdk.Lib.Threads

namespace Interaction

variable {I : Iface} {ε α δ σ S : Type}

/-- What each program has seen, in the terms of the monitor. -/
def views (m : Monitor I S) (s₀ : ℕ → S) (ms : List (Move I δ)) (i : ℕ) : S := m.after (s₀ i) (eventsOf i ms)

section Views

variable {m : Monitor I S} {s₀ : ℕ → S} {ms : List (Move I δ)}

/-- What a monitor records once and for all is there when one of the events was such. -/
theorem Monitor.after_flag {f : S → Bool} {g : Event I → Bool} (h : ∀ s e, f (m.next s e) = (f s || g e)) :
    ∀ (s : S) (t : Trace I), f (m.after s t) = (f s || t.any g)
  | s, [] => by simp [Monitor.after]
  | s, e :: t => by
    have hrest := Monitor.after_flag h (m.next s e) t
    rw [h] at hrest
    rw [List.any_cons, ← Bool.or_assoc]
    exact hrest

/-- What a monitor counts is the number of the events it counts. -/
theorem Monitor.after_count {f : S → ℕ} {g : Event I → Bool} (h : ∀ s e, f (m.next s e) = f s + (g e).toNat)
    (s : S) (t : Trace I) : f (m.after s t) = f s + t.countP g := by
  induction t generalizing s with
  | nil => rfl
  | cons e t ih =>
    show f (m.after (m.next s e) t) = f s + (e :: t).countP g
    rw [ih, h, List.countP_cons]
    cases g e with
    | false => simp
    | true =>
      simp
      omega

theorem views_drift (d : δ) : views m s₀ (ms ++ [.drift d]) = views m s₀ ms := by
  funext i
  rw [views, eventsOf_drift]
  rfl

theorem views_thread (i : ℕ) (e : Event I) :
    views m s₀ (ms ++ [.thread i e]) = Function.update (views m s₀ ms) i (m.next (views m s₀ ms i) e) := by
  funext j
  by_cases hj : j = i
  · subst hj
    rw [Function.update_self, views, eventsOf_self, Monitor.after_snoc]
    rfl
  · rw [Function.update_of_ne hj, views, eventsOf_ne (Ne.symm hj)]
    rfl

end Views

theorem Monitor.after_append {m : Monitor I S} {s : S} {t t' : Trace I} :
    m.after s (t ++ t') = m.after (m.after s t) t' := List.foldl_append ..

/-- What no event changes stays. -/
theorem Monitor.after_same {m : Monitor I S} {f : S → α} :
    ∀ {t : Trace I} {s : S}, (∀ e ∈ t, ∀ s, f (m.next s e) = f s) → f (m.after s t) = f s
  | [], _, _ => rfl
  | e :: t, s, h => by
    have hrest := Monitor.after_same (s := m.next s e) fun e' he' => h e' (List.mem_cons_of_mem _ he')
    exact hrest.trans (h e (List.mem_cons_self ..) s)

variable [DecidableEq I.Op] {M : Machine I δ σ} {guard : List (Move I δ) → Pool I ε α σ → Move I δ → Bool}
  {c c' : Pool I ε α σ} {ms : List (Move I δ)} {m : Monitor I S} {s₀ : ℕ → S}

/-- What holds of the shared state and the views at the start, and is kept by
every drift and every allowed event, holds of them at any time. -/
theorem Pool.run_views (Inv : σ → (ℕ → S) → Prop)
    (hall : ∀ i p, c.threads[i]? = some p → Obeys m (s₀ i) p) (h0 : Inv c.shared s₀)
    (hdrift : ∀ s v d s', Inv s v → M.drift s d = some s' → Inv s' v)
    (hevent : ∀ s v i e s', i < c.threads.length → Inv s v → m.allows (v i) e →
      M.answer s e.op e.ans = some s' → Inv s' (Function.update v i (m.next (v i) e)))
    (h : Pool.run M guard c ms = some c') : Inv c'.shared (views m s₀ ms) := by
  refine Pool.run_induction (P := fun ms c' => Inv c'.shared (views m s₀ ms)) h0 ?_ h
  intro ms c₁ move c₂ hrun ih _ hstep
  cases move with
  | drift d =>
    obtain ⟨s, hs, rfl⟩ := (Pool.step_drift (M := M)).mp hstep
    rw [views_drift]
    exact hdrift _ _ d s ih hs
  | thread i e =>
    have hallowed := Pool.step_allowed (hall i) hrun hstep
    obtain ⟨k, s, hk, hs, rfl⟩ := (Pool.step_thread (M := M)).mp hstep
    have hi : i < c.threads.length := Pool.run_length hrun ▸ (List.getElem?_eq_some_iff.mp hk).1
    rw [views_thread]
    exact hevent _ _ i e s hi ih hallowed hs

end Interaction
