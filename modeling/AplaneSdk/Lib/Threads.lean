/-
# Programs that share a state

Several programs run against one shared state, one question at a time and in
any order: a `Move` names the program and the answer it gets, or lets the
state change by itself. `Pool.run` plays a list of moves and fails where a
move is not possible, so a statement about every list of moves it accepts is
one about every interleaving. `guard` restricts the runs that are looked at.

Key definitions: `Machine`, `Pool`, `Move`, `Pool.step`, `Pool.run`,
`eventsOf`, `Leads`, `Monitor`, `Obeys`.
Key theorems: `Pool.step_thread`, `Pool.run_induction`, `Pool.run_leads`,
`Leads.runs`, `obeys_bind`, `Pool.step_allowed`.
-/
import Mathlib.Data.List.Induction
import AplaneSdk.Lib.Interaction

namespace Interaction

open Prog

/-- A shared state: what it becomes when a question gets an answer, `none`
where it cannot give that answer, and how it changes by itself. -/
structure Machine (I : Iface) (δ σ : Type) where
  answer : σ → (o : I.Op) → I.Ans o → Option σ
  drift : σ → δ → Option σ

structure Pool (I : Iface) (ε α σ : Type) where
  shared : σ
  threads : List (Prog I ε α)

inductive Move (I : Iface) (δ : Type)
  | drift (d : δ)
  | thread (i : ℕ) (e : Event I)

variable {I : Iface} {ε α β δ σ : Type}

/-! ### What one program saw -/

/-- The events of program `i`. -/
def eventsOf (i : ℕ) (ms : List (Move I δ)) : Trace I :=
  ms.filterMap fun
    | .thread j e => if j = i then some e else none
    | .drift _ => none

theorem eventsOf_drift (i : ℕ) (ms : List (Move I δ)) (d : δ) :
    eventsOf i (ms ++ [.drift d]) = eventsOf i ms := by
  simp [eventsOf]

theorem eventsOf_self (i : ℕ) (ms : List (Move I δ)) (e : Event I) :
    eventsOf i (ms ++ [.thread i e]) = eventsOf i ms ++ [e] := by
  simp [eventsOf]

theorem eventsOf_ne {i j : ℕ} (h : j ≠ i) (ms : List (Move I δ)) (e : Event I) :
    eventsOf i (ms ++ [.thread j e]) = eventsOf i ms := by
  simp [eventsOf, h]

theorem eventsOf_append (i : ℕ) (ms₁ ms₂ : List (Move I δ)) :
    eventsOf i (ms₁ ++ ms₂) = eventsOf i ms₁ ++ eventsOf i ms₂ :=
  List.filterMap_append ..

theorem eventsOf_eq_cons {i : ℕ} {ms : List (Move I δ)} {e : Event I} {t : Trace I} (h : eventsOf i ms = e :: t) :
    ∃ ms₁ ms₂, ms = ms₁ ++ .thread i e :: ms₂ ∧ eventsOf i ms₁ = [] ∧ eventsOf i ms₂ = t := by
  obtain ⟨ms₁, m, ms₂, hms, hbefore, hm, hafter⟩ := List.filterMap_eq_cons_iff.mp h
  refine ⟨ms₁, ms₂, ?_, List.filterMap_eq_nil_iff.mpr hbefore, hafter⟩
  cases m with
  | drift d => cases hm
  | thread j e' =>
    have hthis : (if j = i then some e' else none) = some e := hm
    by_cases hj : j = i
    · rw [if_pos hj] at hthis
      rw [hms, hj, Option.some.inj hthis]
    · rw [if_neg hj] at hthis
      cases hthis

theorem eventsOf_ne_nil {i : ℕ} {ms : List (Move I δ)} {e : Event I} (h : .thread i e ∈ ms) :
    eventsOf i ms ≠ [] :=
  List.ne_nil_of_mem (List.mem_filterMap.mpr ⟨_, h, if_pos rfl⟩)

/-- `p` becomes `p'` when it sees the events `t`. -/
def Leads : Prog I ε α → Trace I → Prog I ε α → Prop
  | done r, t, p' => t = [] ∧ p' = done r
  | ask o k, t, p' => t = [] ∧ p' = ask o k ∨ ∃ a t', t = ⟨o, a⟩ :: t' ∧ Leads (k a) t' p'

theorem leads_nil (p : Prog I ε α) : Leads p [] p := by
  cases p with
  | done r => exact ⟨rfl, rfl⟩
  | ask o k => exact Or.inl ⟨rfl, rfl⟩

theorem leads_snoc {p : Prog I ε α} : ∀ {t : Trace I} {o : I.Op} {k : I.Ans o → Prog I ε α},
    Leads p t (ask o k) → ∀ a, Leads p (t ++ [⟨o, a⟩]) (k a) := by
  induction p with
  | done r =>
    intro t o k h
    cases h.2
  | ask o' k' ih =>
    intro t o k h a
    rcases h with ⟨rfl, h⟩ | ⟨a', t', rfl, h⟩
    · cases h
      exact Or.inr ⟨a, [], rfl, leads_nil _⟩
    · exact Or.inr ⟨a', _, rfl, ih a' h a⟩

theorem Leads.unique {p p₁ p₂ : Prog I ε α} : ∀ {t : Trace I}, Leads p t p₁ → Leads p t p₂ → p₁ = p₂ := by
  induction p with
  | done r =>
    intro t h₁ h₂
    exact h₁.2.trans h₂.2.symm
  | ask o k ih =>
    intro t h₁ h₂
    rcases h₁ with ⟨rfl, h₁⟩ | ⟨a, t', rfl, h₁⟩
    · rcases h₂ with ⟨-, h₂⟩ | ⟨a, t', ht, -⟩
      · exact h₁.trans h₂.symm
      · cases ht
    · rcases h₂ with ⟨ht, -⟩ | ⟨a', t'', ht, h₂⟩
      · cases ht
      · cases ht
        exact ih a h₁ h₂

theorem Leads.runs {p : Prog I ε α} {r : Except ε α} : ∀ {t : Trace I}, Leads p t (done r) → Runs p t r := by
  induction p with
  | done r' =>
    intro t h
    obtain ⟨rfl, hr⟩ := h
    cases hr
    exact ⟨rfl, rfl⟩
  | ask o k ih =>
    intro t h
    rcases h with ⟨-, h⟩ | ⟨a, t', rfl, h⟩
    · cases h
    · exact ⟨a, t', rfl, ih a h⟩

/-! ### Monitors

A monitor reads the events of one program and says which event it allows next.
What it allows of every run of the program, whatever the answers, is a property
of the program alone, and holds of it in any company. -/

structure Monitor (I : Iface) (S : Type) where
  next : S → Event I → S
  allows : S → Event I → Prop

section Monitors

variable {S : Type}

/-- Every event of every run of the program is one the monitor allows, from `s` on. -/
def Obeys (m : Monitor I S) : S → Prog I ε α → Prop
  | _, done _ => True
  | s, ask o k => ∀ a, m.allows s ⟨o, a⟩ ∧ Obeys m (m.next s ⟨o, a⟩) (k a)

/-- The state of the monitor after a trace. -/
def Monitor.after (m : Monitor I S) (s : S) (t : Trace I) : S := t.foldl m.next s

variable {m : Monitor I S} {s : S} {p p' : Prog I ε α} {t : Trace I}

@[simp] theorem Monitor.after_snoc (e : Event I) : m.after s (t ++ [e]) = m.next (m.after s t) e := by
  rw [Monitor.after, List.foldl_append]
  rfl

theorem obeys_done (r : Except ε α) : Obeys m s (done r : Prog I ε α) := trivial

theorem obeys_query {o : I.Op} (h : ∀ a, m.allows s ⟨o, a⟩) : Obeys m s (query o : Prog I ε _) := fun a =>
  ⟨h a, trivial⟩

theorem obeys_bind {f : α → Prog I ε β} (hp : Obeys m s p)
    (hf : ∀ t a, Runs p t (.ok a) → Obeys m (m.after s t) (f a)) : Obeys m s (p >>= f) := by
  change Obeys m s (p.bind f)
  induction p generalizing s with
  | done r =>
    cases r with
    | error e => exact trivial
    | ok a => exact hf [] a ⟨rfl, rfl⟩
  | ask o k ih =>
    intro a
    exact ⟨(hp a).1, ih a (hp a).2 fun t b ht => hf (⟨o, a⟩ :: t) b ⟨a, t, rfl, ht⟩⟩

theorem obeys_query_bind {o : I.Op} {f : I.Ans o → Prog I ε β}
    (h : ∀ a, m.allows s ⟨o, a⟩ ∧ Obeys m (m.next s ⟨o, a⟩) (f a)) : Obeys m s (query o >>= f) := h

/-- A value that does not come about is no concern. -/
theorem obeys_lift_bind {x : Except ε α} {f : α → Prog I ε β} (h : ∀ a, x = .ok a → Obeys m s (f a)) :
    Obeys m s ((liftM x : Prog I ε α) >>= f) := by
  cases x with
  | error e => exact obeys_done _
  | ok a => exact h a rfl

theorem obeys_mapError {f : ε → ε} (hp : Obeys m s p) : Obeys m s (p.mapError f) := by
  induction p generalizing s with
  | done r => cases r <;> exact trivial
  | ask o k ih =>
    intro a
    exact ⟨(hp a).1, ih a (hp a).2⟩

theorem obeys_attempt (hp : Obeys m s p) : Obeys m s p.attempt := by
  induction p generalizing s with
  | done r => exact trivial
  | ask o k ih =>
    intro a
    exact ⟨(hp a).1, ih a (hp a).2⟩

/-- What is left of a program that obeys obeys. -/
theorem Obeys.leads (hp : Obeys m s p) (h : Leads p t p') : Obeys m (m.after s t) p' := by
  induction p generalizing s t with
  | done r =>
    obtain ⟨rfl, rfl⟩ := h
    exact trivial
  | ask o k ih =>
    rcases h with ⟨rfl, rfl⟩ | ⟨a, t', rfl, h⟩
    · exact hp
    · have hrest := ih a (hp a).2 h
      exact hrest

end Monitors

/-! ### Moves -/

variable [DecidableEq I.Op]

/-- The program after it got the answer of an event, if it asks that question. -/
def Prog.resume (p : Prog I ε α) (e : Event I) : Option (Prog I ε α) :=
  match p with
  | done _ => none
  | ask o k => if h : e.op = o then some (k (h ▸ e.ans)) else none

/-- What a program asks next. -/
def Prog.pending : Prog I ε α → Option I.Op
  | done _ => none
  | ask o _ => some o

/-- One move. -/
def Pool.step (M : Machine I δ σ) (c : Pool I ε α σ) : Move I δ → Option (Pool I ε α σ)
  | .drift d => (M.drift c.shared d).map fun s => { c with shared := s }
  | .thread i e => do
    let p ← c.threads[i]?
    let p' ← p.resume e
    let s ← M.answer c.shared e.op e.ans
    pure ⟨s, c.threads.set i p'⟩

/-- The moves in order, each of them one that `guard` admits; it sees the moves
of the past. -/
def Pool.runFrom (M : Machine I δ σ) (guard : List (Move I δ) → Pool I ε α σ → Move I δ → Bool) :
    List (Move I δ) → Pool I ε α σ → List (Move I δ) → Option (Pool I ε α σ)
  | _, c, [] => some c
  | past, c, m :: ms =>
    if guard past c m then (c.step M m).bind fun c' => Pool.runFrom M guard (past ++ [m]) c' ms else none

def Pool.run (M : Machine I δ σ) (guard : List (Move I δ) → Pool I ε α σ → Move I δ → Bool)
    (c : Pool I ε α σ) (ms : List (Move I δ)) : Option (Pool I ε α σ) := Pool.runFrom M guard [] c ms

theorem resume_eq_some {p p' : Prog I ε α} {e : Event I} :
    p.resume e = some p' ↔ ∃ k, p = ask e.op k ∧ p' = k e.ans := by
  obtain ⟨o, a⟩ := e
  cases p with
  | done r => simp [Prog.resume]
  | ask o' k =>
    by_cases h : o = o'
    · subst h
      simp [Prog.resume, eq_comm]
    · have hne : ¬ o' = o := fun h' => h h'.symm
      simp [Prog.resume, h, hne]

theorem Pool.step_drift {M : Machine I δ σ} {c c' : Pool I ε α σ} {d : δ} :
    c.step M (.drift d) = some c' ↔ ∃ s, M.drift c.shared d = some s ∧ c' = ⟨s, c.threads⟩ := by
  rw [Pool.step, Option.map_eq_some_iff]
  exact exists_congr fun s => and_congr_right fun _ => eq_comm

theorem Pool.step_thread {M : Machine I δ σ} {c c' : Pool I ε α σ} {i : ℕ} {e : Event I} :
    c.step M (.thread i e) = some c' ↔ ∃ k s, c.threads[i]? = some (ask e.op k) ∧
      M.answer c.shared e.op e.ans = some s ∧ c' = ⟨s, c.threads.set i (k e.ans)⟩ := by
  simp only [Pool.step, Option.bind_eq_bind, Option.bind_eq_some_iff, resume_eq_some, Option.pure_def,
    Option.some.injEq]
  constructor
  · rintro ⟨_, hp, p', ⟨k, rfl, rfl⟩, s, hs, rfl⟩
    exact ⟨k, s, hp, hs, rfl⟩
  · rintro ⟨k, s, hp, hs, rfl⟩
    exact ⟨_, hp, _, ⟨k, rfl, rfl⟩, s, hs, rfl⟩

section Run

variable {M : Machine I δ σ} {guard : List (Move I δ) → Pool I ε α σ → Move I δ → Bool}

theorem Pool.runFrom_snoc : ∀ {past ms : List (Move I δ)} {m : Move I δ} {c c' : Pool I ε α σ},
    Pool.runFrom M guard past c (ms ++ [m]) = some c' ↔ ∃ c₁, Pool.runFrom M guard past c ms = some c₁ ∧
      guard (past ++ ms) c₁ m = true ∧ c₁.step M m = some c'
  | past, [], m, c, c' => by
    by_cases hg : guard past c m = true
    · simp [Pool.runFrom, hg]
    · simp [Pool.runFrom, hg]
  | past, m' :: ms, m, c, c' => by
    rw [List.cons_append, Pool.runFrom, Pool.runFrom]
    by_cases hg : guard past c m' = true
    · rw [if_pos hg, if_pos hg, Option.bind_eq_some_iff]
      simp only [Pool.runFrom_snoc, Option.bind_eq_some_iff, List.append_assoc, List.singleton_append]
      constructor
      · rintro ⟨c₁, hstep, c₂, hrun, hlast⟩
        exact ⟨c₂, ⟨c₁, hstep, hrun⟩, hlast⟩
      · rintro ⟨c₂, ⟨c₁, hstep, hrun⟩, hlast⟩
        exact ⟨c₁, hstep, c₂, hrun, hlast⟩
    · simp [hg]

theorem Pool.run_snoc {ms : List (Move I δ)} {m : Move I δ} {c c' : Pool I ε α σ} :
    Pool.run M guard c (ms ++ [m]) = some c' ↔ ∃ c₁, Pool.run M guard c ms = some c₁ ∧
      guard ms c₁ m = true ∧ c₁.step M m = some c' := Pool.runFrom_snoc

theorem Pool.run_prefix {c : Pool I ε α σ} {ms more : List (Move I δ)} :
    ∀ {c' : Pool I ε α σ}, Pool.run M guard c (ms ++ more) = some c' → ∃ c₁, Pool.run M guard c ms = some c₁ := by
  induction more using List.reverseRecOn with
  | nil =>
    intro c' h
    rw [List.append_nil] at h
    exact ⟨c', h⟩
  | append_singleton more m ih =>
    intro c' h
    rw [← List.append_assoc] at h
    obtain ⟨c₁, hrun, -, -⟩ := Pool.run_snoc.mp h
    exact ih hrun

/-- What holds at the start and is kept by every admitted move holds at the
end of every run; `P` may speak of the moves so far. -/
theorem Pool.run_induction {c : Pool I ε α σ} {P : List (Move I δ) → Pool I ε α σ → Prop} (h0 : P [] c)
    (hstep : ∀ ms c₁ m c₂, Pool.run M guard c ms = some c₁ → P ms c₁ → guard ms c₁ m = true →
      c₁.step M m = some c₂ → P (ms ++ [m]) c₂) {ms : List (Move I δ)} :
    ∀ {c' : Pool I ε α σ}, Pool.run M guard c ms = some c' → P ms c' := by
  induction ms using List.reverseRecOn with
  | nil =>
    intro c' h
    cases h
    exact h0
  | append_singleton ms m ih =>
    intro c' h
    obtain ⟨c₁, hrun, hg, hs⟩ := Pool.run_snoc.mp h
    exact hstep ms c₁ m c' hrun (ih hrun) hg hs

end Run

section Local

variable {M : Machine I δ σ} {guard : List (Move I δ) → Pool I ε α σ → Move I δ → Bool}
  {c c' : Pool I ε α σ} {ms : List (Move I δ)} {i : ℕ} {p : Prog I ε α}

theorem Pool.run_length (h : Pool.run M guard c ms = some c') : c'.threads.length = c.threads.length := by
  refine Pool.run_induction (P := fun _ c' => c'.threads.length = c.threads.length) rfl ?_ h
  intro ms c₁ m c₂ _ ih _ hstep
  cases m with
  | drift d =>
    obtain ⟨s, -, rfl⟩ := Pool.step_drift.mp hstep
    exact ih
  | thread j e =>
    obtain ⟨k, s, -, -, rfl⟩ := Pool.step_thread.mp hstep
    rw [List.length_set]
    exact ih

/-- A program of the pool goes the way of its own events. -/
theorem Pool.run_leads (hp : c.threads[i]? = some p) (h : Pool.run M guard c ms = some c') :
    ∃ p', c'.threads[i]? = some p' ∧ Leads p (eventsOf i ms) p' := by
  refine Pool.run_induction (P := fun ms c' => ∃ p', c'.threads[i]? = some p' ∧ Leads p (eventsOf i ms) p')
    ⟨p, hp, leads_nil p⟩ ?_ h
  intro ms c₁ m c₂ _ ih _ hstep
  obtain ⟨p', hp', hl⟩ := ih
  cases m with
  | drift d =>
    obtain ⟨s, -, rfl⟩ := Pool.step_drift.mp hstep
    rw [eventsOf_drift]
    exact ⟨p', hp', hl⟩
  | thread j e =>
    obtain ⟨k, s, hk, -, rfl⟩ := Pool.step_thread.mp hstep
    by_cases hj : j = i
    · subst hj
      have hlt := (List.getElem?_eq_some_iff.mp hp').1
      rw [hp'] at hk
      cases Option.some.inj hk
      rw [eventsOf_self]
      exact ⟨k e.ans, List.getElem?_set_self hlt, leads_snoc hl e.ans⟩
    · rw [eventsOf_ne hj, List.getElem?_set_ne hj]
      exact ⟨p', hp', hl⟩

/-- A program that obeys a monitor obeys it in any company. -/
theorem Pool.run_obeys {S : Type} {m : Monitor I S} {s₀ : S} (hp : c.threads[i]? = some p)
    (hobeys : Obeys m s₀ p) (h : Pool.run M guard c ms = some c') :
    ∃ p', c'.threads[i]? = some p' ∧ Obeys m (m.after s₀ (eventsOf i ms)) p' := by
  obtain ⟨p', hp', hl⟩ := Pool.run_leads hp h
  exact ⟨p', hp', hobeys.leads hl⟩

/-- What is left of such a program, at any time. -/
theorem Pool.thread_obeys {S : Type} {m : Monitor I S} {s₀ : S}
    (hall : ∀ p, c.threads[i]? = some p → Obeys m s₀ p) (h : Pool.run M guard c ms = some c')
    (hp : c'.threads[i]? = some p) : Obeys m (m.after s₀ (eventsOf i ms)) p := by
  have hi : i < c.threads.length := Pool.run_length h ▸ (List.getElem?_eq_some_iff.mp hp).1
  have hi := List.getElem?_eq_getElem hi
  obtain ⟨p', hp', hobeys⟩ := Pool.run_obeys hi (hall _ hi) h
  rw [hp] at hp'
  cases Option.some.inj hp'
  exact hobeys

/-- The next event of such a program is one its monitor allows. -/
theorem Pool.step_allowed {S : Type} {m : Monitor I S} {s₀ : S} {c₂ : Pool I ε α σ} {e : Event I}
    (hall : ∀ p, c.threads[i]? = some p → Obeys m s₀ p) (h : Pool.run M guard c ms = some c')
    (hstep : c'.step M (.thread i e) = some c₂) : m.allows (m.after s₀ (eventsOf i ms)) e := by
  obtain ⟨k, s, hk, -, -⟩ := Pool.step_thread.mp hstep
  exact (Pool.thread_obeys hall h hk e.ans).1

end Local

end Interaction
