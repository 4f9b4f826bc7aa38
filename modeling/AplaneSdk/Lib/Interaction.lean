/-
# Programs that ask the outside world and go on with the answer

A client program is a tree: it has ended, with a value or an error, or it
asks one question and continues with whatever it is told. `Runs p t r` says
that the program `p` can leave the questions and answers `t` behind and end
with `r`; nothing is assumed of the answers, so a statement about every run
is a statement about every behaviour of the parties that answer. `exec f`
is the run whose answers come from `f`.

Key definitions: `Prog`, `Runs`, `exec`, `traceOf`, `collect`, `Emits`, `Within`,
`AtEach`.
Key theorems: `runs_bind`, `runs_bind_ok`, `runs_bind_split`, `runs_traceOf`,
`runs_collect_ok`, `emits_bind`, `emits_collect`, `within_bind`.
-/
import Mathlib.Data.List.Forall2

namespace Interaction

/-- What can be asked, and the answers each question has. -/
structure Iface where
  Op : Type
  Ans : Op → Type

/-- A program over the questions of `I`: it has ended, or it asks. -/
inductive Prog (I : Iface) (ε α : Type) : Type
  | done (r : Except ε α)
  | ask (o : I.Op) (k : I.Ans o → Prog I ε α)

/-- A question with the answer it got. -/
structure Event (I : Iface) where
  op : I.Op
  ans : I.Ans op

/-- The questions a run asked and their answers, oldest first. -/
abbrev Trace (I : Iface) := List (Event I)

variable {I : Iface} {ε α β γ : Type}

namespace Prog

/-- Run `p`, then `f` on its value; an error of `p` ends the program. -/
def bind : Prog I ε α → (α → Prog I ε β) → Prog I ε β
  | done (.ok a), f => f a
  | done (.error e), _ => done (.error e)
  | ask o k, f => ask o fun a => (k a).bind f

instance : Monad (Prog I ε) where
  pure a := done (.ok a)
  bind := bind

instance : MonadExceptOf ε (Prog I ε) where
  throw e := done (.error e)
  tryCatch p h :=
    let rec go : Prog I ε _ → Prog I ε _
      | done (.ok a) => done (.ok a)
      | done (.error e) => h e
      | ask o k => ask o fun a => go (k a)
    go p

/-- A computation that asks nothing. -/
instance : MonadLift (Except ε) (Prog I ε) := ⟨done⟩

/-- Ask one question and return the answer. -/
def query (o : I.Op) : Prog I ε (I.Ans o) := ask o fun a => done (.ok a)

/-- Rewrite the error a program ends with. -/
def mapError (f : ε → ε) : Prog I ε α → Prog I ε α
  | done (.ok a) => done (.ok a)
  | done (.error e) => done (.error (f e))
  | ask o k => ask o fun a => (k a).mapError f

/-- Run `p` to its end and hold on to how it ended. -/
def attempt : Prog I ε α → Prog I ε (Except ε α)
  | done r => done (.ok r)
  | ask o k => ask o fun a => (k a).attempt

/-- `try p finally q`. -/
def finallyDo (p : Prog I ε α) (q : Prog I ε Unit) : Prog I ε α := do
  let r ← p.attempt
  q
  liftM r

end Prog

open Prog

/-- `p` can leave the trace `t` behind and end with `r`. -/
def Runs : Prog I ε α → Trace I → Except ε α → Prop
  | done r', t, r => t = [] ∧ r = r'
  | ask o k, t, r => ∃ a t', t = ⟨o, a⟩ :: t' ∧ Runs (k a) t' r

/-- The outcome of `p` when `f` answers. -/
def exec (f : (o : I.Op) → I.Ans o) : Prog I ε α → Except ε α
  | done r => r
  | ask o k => exec f (k (f o))

/-- The trace of `p` when `f` answers. -/
def traceOf (f : (o : I.Op) → I.Ans o) : Prog I ε α → Trace I
  | done _ => []
  | ask o k => ⟨o, f o⟩ :: traceOf f (k (f o))

@[simp] theorem runs_done {r r' : Except ε α} {t : Trace I} :
    Runs (done r' : Prog I ε α) t r ↔ t = [] ∧ r = r' := Iff.rfl

@[simp] theorem runs_pure {a : α} {t : Trace I} {r : Except ε α} :
    Runs (pure a : Prog I ε α) t r ↔ t = [] ∧ r = .ok a := Iff.rfl

@[simp] theorem runs_throw {e : ε} {t : Trace I} {r : Except ε α} :
    Runs (throw e : Prog I ε α) t r ↔ t = [] ∧ r = .error e := Iff.rfl

@[simp] theorem runs_lift {x : Except ε α} {t : Trace I} {r : Except ε α} :
    Runs (liftM x : Prog I ε α) t r ↔ t = [] ∧ r = x := Iff.rfl

@[simp] theorem runs_query {o : I.Op} {t : Trace I} {r : Except ε (I.Ans o)} :
    Runs (query o : Prog I ε _) t r ↔ ∃ a, t = [⟨o, a⟩] ∧ r = .ok a := by
  constructor
  · rintro ⟨a, t', rfl, rfl, rfl⟩
    exact ⟨a, rfl, rfl⟩
  · rintro ⟨a, rfl, rfl⟩
    exact ⟨a, [], rfl, rfl, rfl⟩

/-- A run of `p >>= f`: `p` fails, or `p` succeeds and `f` goes on. -/
theorem runs_bind {p : Prog I ε α} {f : α → Prog I ε β} {t : Trace I} {r : Except ε β} :
    Runs (p >>= f) t r ↔ (∃ e, Runs p t (.error e) ∧ r = .error e) ∨
      ∃ a t₁ t₂, t = t₁ ++ t₂ ∧ Runs p t₁ (.ok a) ∧ Runs (f a) t₂ r := by
  change Runs (p.bind f) t r ↔ _
  induction p generalizing t with
  | done x =>
    cases x with
    | error e =>
      constructor
      · rintro ⟨rfl, rfl⟩
        exact Or.inl ⟨e, ⟨rfl, rfl⟩, rfl⟩
      · rintro (⟨e', ⟨rfl, he⟩, rfl⟩ | ⟨a, t₁, t₂, -, ⟨-, ha⟩, -⟩)
        · cases he
          exact ⟨rfl, rfl⟩
        · cases ha
    | ok a =>
      constructor
      · intro h
        exact Or.inr ⟨a, [], t, rfl, ⟨rfl, rfl⟩, h⟩
      · rintro (⟨e, ⟨-, he⟩, -⟩ | ⟨a', t₁, t₂, rfl, ⟨rfl, ha⟩, h⟩)
        · cases he
        · cases ha
          exact h
  | ask o k ih =>
    constructor
    · rintro ⟨a, t', rfl, h⟩
      rcases (ih a).mp h with ⟨e, he, rfl⟩ | ⟨b, t₁, t₂, rfl, h1, h2⟩
      · exact Or.inl ⟨e, ⟨a, t', rfl, he⟩, rfl⟩
      · exact Or.inr ⟨b, ⟨o, a⟩ :: t₁, t₂, rfl, ⟨a, t₁, rfl, h1⟩, h2⟩
    · rintro (⟨e, ⟨a, t', rfl, he⟩, rfl⟩ | ⟨b, t₁, t₂, rfl, ⟨a, t', rfl, h1⟩, h2⟩)
      · exact ⟨a, t', rfl, (ih a).mpr (Or.inl ⟨e, he, rfl⟩)⟩
      · exact ⟨a, t' ++ t₂, rfl, (ih a).mpr (Or.inr ⟨b, t', t₂, rfl, h1, h2⟩)⟩

/-- A successful run of `p >>= f` is one of `p`, then one of `f`. -/
theorem runs_bind_ok {p : Prog I ε α} {f : α → Prog I ε β} {t : Trace I} {b : β} :
    Runs (p >>= f) t (.ok b) ↔
      ∃ a t₁ t₂, t = t₁ ++ t₂ ∧ Runs p t₁ (.ok a) ∧ Runs (f a) t₂ (.ok b) := by
  rw [runs_bind]
  constructor
  · rintro (⟨e, -, h⟩ | h)
    · cases h
    · exact h
  · exact Or.inr

/-- A step that asks nothing leaves the trace to what follows. -/
theorem runs_lift_bind {x : Except ε α} {f : α → Prog I ε β} {t : Trace I} {r : Except ε β} :
    Runs ((liftM x : Prog I ε α) >>= f) t r ↔
      (∃ e, x = .error e ∧ t = [] ∧ r = .error e) ∨ ∃ a, x = .ok a ∧ Runs (f a) t r := by
  cases x with
  | error e =>
    constructor
    · rintro ⟨rfl, rfl⟩
      exact Or.inl ⟨e, rfl, rfl, rfl⟩
    · rintro (⟨e', h, rfl, rfl⟩ | ⟨a, h, -⟩)
      · cases h
        exact ⟨rfl, rfl⟩
      · cases h
  | ok a =>
    constructor
    · intro h
      exact Or.inr ⟨a, rfl, h⟩
    · rintro (⟨e', h, -⟩ | ⟨a', h, h'⟩)
      · cases h
      · cases h
        exact h'

theorem runs_lift_bind_ok {x : Except ε α} {f : α → Prog I ε β} {t : Trace I} {b : β} :
    Runs ((liftM x : Prog I ε α) >>= f) t (.ok b) ↔ ∃ a, x = .ok a ∧ Runs (f a) t (.ok b) := by
  rw [runs_lift_bind]
  constructor
  · rintro (⟨e, -, -, h⟩ | h)
    · cases h
    · exact h
  · exact Or.inr

/-- Rewriting errors leaves the trace alone. -/
theorem runs_mapError {p : Prog I ε α} {f : ε → ε} {t : Trace I} {r : Except ε α} :
    Runs (p.mapError f) t r ↔ ∃ r', Runs p t r' ∧ r = r'.mapError f := by
  induction p generalizing t with
  | done x => cases x <;> simp [mapError, Except.mapError]
  | ask o k ih =>
    simp only [mapError, Runs, ih]
    constructor
    · rintro ⟨a, t', ht, r', hrun, hr⟩
      exact ⟨r', ⟨a, t', ht, hrun⟩, hr⟩
    · rintro ⟨r', ⟨a, t', ht, hrun⟩, hr⟩
      exact ⟨a, t', ht, r', hrun, hr⟩

/-- A success of a program with rewritten errors is a success of the program. -/
theorem runs_mapError_ok {p : Prog I ε α} {f : ε → ε} {t : Trace I} {a : α} :
    Runs (p.mapError f) t (.ok a) ↔ Runs p t (.ok a) := by
  rw [runs_mapError]
  constructor
  · rintro ⟨_ | b, hrun, hr⟩
    · cases hr
    · cases hr
      exact hrun
  · intro hrun
    exact ⟨.ok a, hrun, rfl⟩

theorem runs_of_mapError {p : Prog I ε α} {f : ε → ε} {t : Trace I} {r : Except ε α}
    (h : Runs (p.mapError f) t r) : ∃ r', Runs p t r' :=
  let ⟨r', hrun, _⟩ := runs_mapError.mp h
  ⟨r', hrun⟩

theorem runs_attempt {p : Prog I ε α} {t : Trace I} {r : Except ε (Except ε α)} :
    Runs p.attempt t r ↔ ∃ r', Runs p t r' ∧ r = .ok r' := by
  induction p generalizing t with
  | done r' =>
    constructor
    · rintro ⟨rfl, rfl⟩
      exact ⟨r', ⟨rfl, rfl⟩, rfl⟩
    · rintro ⟨_, ⟨rfl, rfl⟩, rfl⟩
      exact ⟨rfl, rfl⟩
  | ask o k ih =>
    constructor
    · rintro ⟨a, t', rfl, h⟩
      obtain ⟨r', hr, rfl⟩ := (ih a).mp h
      exact ⟨r', ⟨a, t', rfl, hr⟩, rfl⟩
    · rintro ⟨r', ⟨a, t', rfl, h⟩, rfl⟩
      exact ⟨a, t', rfl, (ih a).mpr ⟨r', h, rfl⟩⟩

theorem runs_query_bind {o : I.Op} {f : I.Ans o → Prog I ε β} {t : Trace I} {r : Except ε β} :
    Runs (query o >>= f) t r ↔ ∃ a t', t = ⟨o, a⟩ :: t' ∧ Runs (f a) t' r := Iff.rfl

/-- What comes after the end runs however `p` ended. -/
theorem runs_finallyDo {p : Prog I ε α} {q : Prog I ε Unit} {t : Trace I} {r : Except ε α} :
    Runs (p.finallyDo q) t r ↔ ∃ r' t₁ t₂, t = t₁ ++ t₂ ∧ Runs p t₁ r' ∧
      ((∃ e, Runs q t₂ (.error e) ∧ r = .error e) ∨ Runs q t₂ (.ok ()) ∧ r = r') := by
  rw [finallyDo, runs_bind]
  constructor
  · rintro (⟨e, hp, -⟩ | ⟨r', t₁, t₂, rfl, hp, hq⟩)
    · obtain ⟨_, -, h⟩ := runs_attempt.mp hp
      cases h
    · obtain ⟨_, hp, h⟩ := runs_attempt.mp hp
      cases h
      refine ⟨r', t₁, t₂, rfl, hp, ?_⟩
      rcases runs_bind.mp hq with herror | ⟨_, t₃, t₄, rfl, hlast, rfl, rfl⟩
      · exact Or.inl herror
      · rw [List.append_nil]
        exact Or.inr ⟨hlast, rfl⟩
  · rintro ⟨r', t₁, t₂, rfl, hp, hq⟩
    refine Or.inr ⟨r', t₁, t₂, rfl, runs_attempt.mpr ⟨r', hp, rfl⟩, runs_bind.mpr ?_⟩
    rcases hq with herror | ⟨hq, rfl⟩
    · exact Or.inl herror
    · exact Or.inr ⟨(), t₂, [], by simp, hq, rfl, rfl⟩

/-- The run whose answers come from `f`. -/
theorem runs_traceOf (f : (o : I.Op) → I.Ans o) (p : Prog I ε α) :
    Runs p (traceOf f p) (exec f p) := by
  induction p with
  | done r => exact ⟨rfl, rfl⟩
  | ask o k ih => exact ⟨f o, _, rfl, ih (f o)⟩

/-- Every answer of that run is `f`'s. -/
theorem ans_of_mem_traceOf (f : (o : I.Op) → I.Ans o) (p : Prog I ε α) {e : Event I}
    (h : e ∈ traceOf f p) : e = ⟨e.op, f e.op⟩ := by
  induction p with
  | done r => cases h
  | ask o k ih =>
    rcases List.mem_cons.mp h with rfl | h
    · rfl
    · exact ih _ h

/-- A run is determined by its answers: two runs with the same trace end alike. -/
theorem runs_unique {p : Prog I ε α} {t : Trace I} {r r' : Except ε α} (h : Runs p t r)
    (h' : Runs p t r') : r = r' := by
  induction p generalizing t with
  | done x => exact h.2.trans h'.2.symm
  | ask o k ih =>
    obtain ⟨a, t₁, rfl, h⟩ := h
    obtain ⟨a', t₂, he, h'⟩ := h'
    cases he
    exact ih a h h'

@[simp] theorem exec_done (f : (o : I.Op) → I.Ans o) (r : Except ε α) :
    exec f (done r : Prog I ε α) = r := rfl

@[simp] theorem exec_pure (f : (o : I.Op) → I.Ans o) (a : α) :
    exec f (pure a : Prog I ε α) = .ok a := rfl

@[simp] theorem exec_lift (f : (o : I.Op) → I.Ans o) (x : Except ε α) :
    exec f (liftM x : Prog I ε α) = x := rfl

@[simp] theorem exec_query (f : (o : I.Op) → I.Ans o) (o : I.Op) :
    exec f (query o : Prog I ε _) = .ok (f o) := rfl

theorem lift_ok_bind {a : α} {f : α → Prog I ε β} :
    ((liftM (Except.ok a : Except ε α) : Prog I ε α) >>= f) = f a := rfl

theorem exec_bind (f : (o : I.Op) → I.Ans o) (p : Prog I ε α) (g : α → Prog I ε β) :
    exec f (p >>= g) = (exec f p).bind fun a => exec f (g a) := by
  change exec f (p.bind g) = _
  induction p with
  | done x => cases x <;> rfl
  | ask o k ih => exact ih (f o)

theorem exec_bind_ok {f : (o : I.Op) → I.Ans o} {p : Prog I ε α} {g : α → Prog I ε β} {b : β} :
    exec f (p >>= g) = .ok b ↔ ∃ a, exec f p = .ok a ∧ exec f (g a) = .ok b := by
  rw [exec_bind]
  cases exec f p with
  | error e => simp [Except.bind]
  | ok a => simp [Except.bind]

/-! ### Asking once per element -/

/-- Run `f` on every element, in order, and collect the values. -/
def collect (f : α → Prog I ε β) : List α → Prog I ε (List β)
  | [] => pure []
  | x :: xs => do
    let y ← f x
    let ys ← collect f xs
    pure (y :: ys)

/-- A successful `collect` has a value for each element, from a run within its own. -/
theorem runs_collect_ok {f : α → Prog I ε β} : ∀ {xs : List α} {t : Trace I} {ys : List β},
    Runs (collect f xs) t (.ok ys) → ys.length = xs.length ∧
      ∀ (i : ℕ) x y, xs[i]? = some x → ys[i]? = some y → ∃ t', t' ⊆ t ∧ Runs (f x) t' (.ok y)
  | [], t, ys, h => by
    cases h.2
    exact ⟨rfl, by simp⟩
  | x :: xs, t, ys, h => by
    obtain ⟨y, t₁, t₂, rfl, hx, hrest⟩ := runs_bind_ok.mp h
    obtain ⟨ys', t₃, t₄, rfl, hxs, rfl, hys⟩ := runs_bind_ok.mp hrest
    cases hys
    obtain ⟨hlen, heach⟩ := runs_collect_ok hxs
    refine ⟨by simp [hlen], fun i a b ha hb => ?_⟩
    cases i with
    | zero =>
      cases ha
      cases hb
      exact ⟨t₁, List.subset_append_left .., hx⟩
    | succ i =>
      obtain ⟨t', ht', hrun⟩ := heach i a b (by simpa using ha) (by simpa using hb)
      refine ⟨t', List.Subset.trans ht' ?_, hrun⟩
      rw [List.append_nil]
      exact List.subset_append_right ..

theorem runs_collect_mem {f : α → Prog I ε β} {xs : List α} {t : Trace I} {ys : List β} {y : β}
    (h : Runs (collect f xs) t (.ok ys)) (hy : y ∈ ys) :
    ∃ x ∈ xs, ∃ t', t' ⊆ t ∧ Runs (f x) t' (.ok y) := by
  obtain ⟨hlen, heach⟩ := runs_collect_ok h
  obtain ⟨i, hi, rfl⟩ := List.getElem_of_mem hy
  have hi' : i < xs.length := hlen ▸ hi
  exact ⟨xs[i], List.getElem_mem hi', heach i _ _ (List.getElem?_eq_getElem hi') (List.getElem?_eq_getElem hi)⟩

/-- The run of an element within that of a successful `collect`. -/
theorem runs_collect_each {f : α → Prog I ε β} {xs : List α} {t : Trace I} {ys : List β} {x : α}
    (h : Runs (collect f xs) t (.ok ys)) (hx : x ∈ xs) : ∃ y t', t' ⊆ t ∧ Runs (f x) t' (.ok y) := by
  obtain ⟨hlen, heach⟩ := runs_collect_ok h
  obtain ⟨i, hi, rfl⟩ := List.getElem_of_mem hx
  have hi' : i < ys.length := hlen.symm ▸ hi
  obtain ⟨t', ht', hrun⟩ := heach i _ _ (List.getElem?_eq_getElem hi) (List.getElem?_eq_getElem hi')
  exact ⟨_, t', ht', hrun⟩

theorem collect_map {γ : Type} (f : α → Prog I ε β) (g : γ → α) : ∀ xs : List γ,
    collect f (xs.map g) = collect (fun x => f (g x)) xs
  | [] => rfl
  | x :: xs => by
    rw [List.map_cons, collect, collect, collect_map f g xs]

/-- Other answers to the same questions: where every element succeeds on them
too, so does `collect`, with values that are related one by one. -/
theorem runs_collect_map {f : α → Prog I ε β} {w : Event I → Event I} {R : β → β → Prop} :
    ∀ {xs : List α} {t : Trace I} {ys : List β}, Runs (collect f xs) t (.ok ys) →
      (∀ x ∈ xs, ∀ t' y, y ∈ ys → Runs (f x) t' (.ok y) → ∃ y', Runs (f x) (t'.map w) (.ok y') ∧ R y y') →
      ∃ ys', Runs (collect f xs) (t.map w) (.ok ys') ∧ List.Forall₂ R ys ys'
  | [], t, ys, h, _ => by
    obtain ⟨rfl, hys⟩ := h
    cases hys
    exact ⟨[], ⟨rfl, rfl⟩, .nil⟩
  | x :: xs, t, ys, h, hstep => by
    obtain ⟨y, t₁, t₂, rfl, hx, hrest⟩ := runs_bind_ok.mp h
    obtain ⟨ys₁, t₃, t₄, rfl, hxs, rfl, hys⟩ := runs_bind_ok.mp hrest
    cases hys
    obtain ⟨y', hy', hR⟩ := hstep x (List.mem_cons_self ..) t₁ y (List.mem_cons_self ..) hx
    obtain ⟨ys', hys', hRs⟩ := runs_collect_map hxs fun a ha t' b hb hrun =>
      hstep a (List.mem_cons_of_mem _ ha) t' b (List.mem_cons_of_mem _ hb) hrun
    refine ⟨y' :: ys', ?_, .cons hR hRs⟩
    rw [List.append_nil, List.map_append]
    refine runs_bind_ok.mpr ⟨y', t₁.map w, t₃.map w, rfl, hy', runs_bind_ok.mpr ?_⟩
    exact ⟨ys', t₃.map w, [], (List.append_nil _).symm, hys', rfl, rfl⟩

/-- With answers from an oracle, `collect` succeeds when every element does. -/
theorem exec_collect_ok {oracle : (o : I.Op) → I.Ans o} {f : α → Prog I ε β} :
    ∀ {xs : List α} {ys : List β}, exec oracle (collect f xs) = .ok ys ↔
      List.Forall₂ (fun x y => exec oracle (f x) = .ok y) xs ys
  | [], ys => by
    cases ys <;> simp [collect]
  | x :: xs, ys => by
    simp only [collect, exec_bind_ok, exec_pure, exec_collect_ok, Except.ok.injEq]
    constructor
    · rintro ⟨y, hy, ys', hys, rfl⟩
      exact .cons hy hys
    · intro h
      cases h with
      | cons hy hys => exact ⟨_, hy, _, hys, rfl⟩

/-! ### What a program may say -/

/-- Every event of every run of `p`, successful or not, satisfies `S`. -/
def Emits (S : Event I → Prop) (p : Prog I ε α) : Prop :=
  ∀ t r, Runs p t r → ∀ e ∈ t, S e

variable {S : Event I → Prop}

theorem emits_done (r : Except ε α) : Emits S (done r : Prog I ε α) := by
  rintro t r ⟨rfl, -⟩ e he
  cases he

theorem emits_pure (a : α) : Emits S (pure a : Prog I ε α) := emits_done _

theorem emits_lift (x : Except ε α) : Emits S (liftM x : Prog I ε α) := emits_done _

theorem emits_query {o : I.Op} (h : ∀ a, S ⟨o, a⟩) : Emits S (query o : Prog I ε _) := by
  intro t r hr e he
  obtain ⟨a, rfl, -⟩ := runs_query.mp hr
  rw [List.mem_singleton.mp he]
  exact h a

/-- What follows a program may rely on the run that came before it. -/
theorem emits_bind_runs {p : Prog I ε α} {f : α → Prog I ε β} (hp : Emits S p)
    (hf : ∀ t a, Runs p t (.ok a) → Emits S (f a)) : Emits S (p >>= f) := by
  intro t r hr e he
  rcases runs_bind.mp hr with ⟨e', h, -⟩ | ⟨a, t₁, t₂, rfl, h1, h2⟩
  · exact hp _ _ h _ he
  · rcases List.mem_append.mp he with he | he
    · exact hp _ _ h1 _ he
    · exact hf t₁ a h1 _ _ h2 _ he

theorem emits_bind {p : Prog I ε α} {f : α → Prog I ε β} (hp : Emits S p)
    (hf : ∀ a, Emits S (f a)) : Emits S (p >>= f) := emits_bind_runs hp fun _ a _ => hf a

theorem emits_lift_bind {x : Except ε α} {f : α → Prog I ε β} (hf : ∀ a, x = .ok a → Emits S (f a)) :
    Emits S ((liftM x : Prog I ε α) >>= f) :=
  emits_bind_runs (emits_lift x) fun _ a h => hf a h.2.symm

theorem emits_mapError {p : Prog I ε α} {f : ε → ε} (hp : Emits S p) : Emits S (p.mapError f) := by
  intro t r hr
  obtain ⟨r', h⟩ := runs_of_mapError hr
  exact hp t r' h

/-- An event that `p` never leaves behind comes after a success of `p`. -/
theorem runs_bind_split {p : Prog I ε α} {f : α → Prog I ε β} {pre post : Trace I} {e : Event I}
    {r : Except ε β} (hp : Emits (fun e => ¬ S e) p) (he : S e)
    (h : Runs (p >>= f) (pre ++ e :: post) r) :
    ∃ a t pre', pre = t ++ pre' ∧ Runs p t (.ok a) ∧ Runs (f a) (pre' ++ e :: post) r := by
  rcases runs_bind.mp h with ⟨e', h, -⟩ | ⟨a, t₁, t₂, ht, h1, h2⟩
  · exact absurd he (hp _ _ h e (by simp))
  · rcases List.append_eq_append_iff.mp ht.symm with ⟨pre', rfl, rfl⟩ | ⟨pre', rfl, h'⟩
    · exact ⟨a, t₁, pre', rfl, h1, h2⟩
    · cases pre' with
      | nil =>
        rw [List.nil_append] at h'
        subst h'
        exact ⟨a, pre, [], by simp, by simpa using h1, h2⟩
      | cons e' rest =>
        obtain ⟨rfl, rfl⟩ := List.cons.inj h'
        exact absurd he (hp _ _ h1 e (by simp))

/-- What follows asks nothing: the trace is that of the first program. -/
theorem runs_bind_quiet {p : Prog I ε α} {f : α → Prog I ε β} {t : Trace I} {r : Except ε β}
    (hf : ∀ a, Emits (fun _ => False) (f a)) (h : Runs (p >>= f) t r) : ∃ r', Runs p t r' := by
  rcases runs_bind.mp h with ⟨e, h, -⟩ | ⟨a, t₁, t₂, rfl, h1, h2⟩
  · exact ⟨_, h⟩
  · have hnil : t₂ = [] := List.eq_nil_iff_forall_not_mem.mpr fun e he => hf a _ _ h2 e he
    rw [hnil, List.append_nil]
    exact ⟨_, h1⟩

/-- At every event of every run of `p`, `Q` holds of what came before and the event. -/
def AtEach (p : Prog I ε α) (Q : Trace I → Event I → Prop) : Prop :=
  ∀ pre e post r, Runs p (pre ++ e :: post) r → Q pre e

/-- A run with given answers, up to an event it comes to. -/
theorem AtEach.of_any {p : Prog I ε α} {Q : Trace I → Event I → Prop} (h : AtEach p Q)
    (f : (o : I.Op) → I.Ans o) {k : Event I → Bool} (hany : (traceOf f p).any k = true) :
    ∃ pre e, k e = true ∧ Q pre e ∧ ∀ e' ∈ pre, e' = ⟨e'.op, f e'.op⟩ := by
  obtain ⟨e, he, hk⟩ := List.any_eq_true.mp hany
  obtain ⟨pre, post, htrace⟩ := List.append_of_mem he
  have hruns := runs_traceOf f p
  rw [htrace] at hruns
  refine ⟨pre, e, hk, h pre e post _ hruns, fun e' he' => ans_of_mem_traceOf f p ?_⟩
  rw [htrace]
  exact List.mem_append_left _ he'

/-- An event of a `collect` is an event of a run of one of its elements. -/
theorem emits_collect {f : α → Prog I ε β} :
    ∀ xs : List α, (∀ x ∈ xs, Emits S (f x)) → Emits S (collect f xs)
  | [], _ => emits_pure _
  | x :: xs, h => emits_bind (h x (List.mem_cons_self ..)) fun _ =>
      emits_bind (emits_collect xs fun y hy => h y (List.mem_cons_of_mem _ hy)) fun _ => emits_pure _

/-! ### Runs of one program that are runs of another -/

/-- Every run of `p` is a run of `q`. -/
def Within (p q : Prog I ε α) : Prop := ∀ t r, Runs p t r → Runs q t r

theorem Within.refl (p : Prog I ε α) : Within p p := fun _ _ h => h

/-- What follows may rely on the run of `q` that came before it. -/
theorem within_bind {p q : Prog I ε α} {f g : α → Prog I ε β} (hpq : Within p q)
    (hfg : ∀ t a, Runs q t (.ok a) → Within (f a) (g a)) : Within (p >>= f) (q >>= g) := by
  intro t r h
  rw [runs_bind]
  rcases runs_bind.mp h with ⟨e, hp, hr⟩ | ⟨a, t₁, t₂, ht, hp, hf⟩
  · exact Or.inl ⟨e, hpq _ _ hp, hr⟩
  · have hq := hpq _ _ hp
    exact Or.inr ⟨a, t₁, t₂, ht, hq, hfg t₁ a hq _ _ hf⟩

theorem within_lift_bind {x : Except ε α} {f g : α → Prog I ε β}
    (h : ∀ a, x = .ok a → Within (f a) (g a)) : Within ((liftM x : Prog I ε α) >>= f) (liftM x >>= g) :=
  within_bind (Within.refl _) fun _ a hrun => h a hrun.2.symm

theorem within_mapError {p q : Prog I ε α} {f : ε → ε} (h : Within p q) :
    Within (p.mapError f) (q.mapError f) := by
  intro t r hr
  obtain ⟨r', hrun, hr'⟩ := runs_mapError.mp hr
  exact runs_mapError.mpr ⟨r', h _ _ hrun, hr'⟩

theorem within_collect {f g : α → Prog I ε β} :
    ∀ xs : List α, (∀ x ∈ xs, Within (f x) (g x)) → Within (collect f xs) (collect g xs)
  | [], _ => Within.refl _
  | x :: xs, h => within_bind (h x (List.mem_cons_self ..)) fun _ _ _ =>
      within_bind (within_collect xs fun y hy => h y (List.mem_cons_of_mem _ hy)) fun _ _ _ => Within.refl _

end Interaction
