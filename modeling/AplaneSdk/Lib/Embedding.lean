/-
# A program that talks to several parties

An interface embeds into another when its questions are questions there, with
the same answers. A program over the smaller interface then runs over the
larger one, and what it leaves behind is its own trace, question by question.
The sum of two interfaces is the world with both parties in it.

Key definitions: `Embedding`, `Event.via`, `Prog.via`, `Iface.sum`.
Key theorems: `runs_via`, `runs_bind_lift`, `via_sums_disjoint`.
-/
import Mathlib.Logic.Equiv.Basic
import AplaneSdk.Lib.Interaction

namespace Interaction

/-- The questions of `I` among those of `J`. -/
structure Embedding (I J : Iface) where
  op : I.Op → J.Op
  ans : (o : I.Op) → I.Ans o ≃ J.Ans (op o)

variable {I J : Iface} {ε α β : Type}

/-- A question and its answer, as the larger interface has them. -/
def Event.via (m : Embedding I J) (e : Event I) : Event J := ⟨m.op e.op, m.ans e.op e.ans⟩

/-- The program over the larger interface. -/
def Prog.via (m : Embedding I J) : Prog I ε α → Prog J ε α
  | done r => done r
  | ask o k => ask (m.op o) fun a => (k ((m.ans o).symm a)).via m

/-- Its runs are the runs of the program. -/
theorem runs_via {m : Embedding I J} {p : Prog I ε α} {t : Trace J} {r : Except ε α} :
    Runs (p.via m) t r ↔ ∃ t', t = t'.map (Event.via m) ∧ Runs p t' r := by
  induction p generalizing t with
  | done r' =>
    constructor
    · rintro ⟨rfl, rfl⟩
      exact ⟨[], rfl, rfl, rfl⟩
    · rintro ⟨t', rfl, rfl, rfl⟩
      exact ⟨rfl, rfl⟩
  | ask o k ih =>
    constructor
    · rintro ⟨a, t₁, rfl, h⟩
      obtain ⟨t', rfl, hrun⟩ := (ih _).mp h
      refine ⟨⟨o, (m.ans o).symm a⟩ :: t', ?_, (m.ans o).symm a, t', rfl, hrun⟩
      simp [Event.via]
    · rintro ⟨_, rfl, a, t', rfl, hrun⟩
      refine ⟨m.ans o a, t'.map (Event.via m), rfl, (ih _).mpr ⟨t', rfl, ?_⟩⟩
      rw [Equiv.symm_apply_apply]
      exact hrun

/-- What the program leaves behind, as the larger interface has it. -/
theorem emits_via {m : Embedding I J} {p : Prog I ε α} {S : Event J → Prop}
    (h : Emits (fun e => S (e.via m)) p) : Emits S (p.via m) := by
  intro t r hr e he
  obtain ⟨t', rfl, hrun⟩ := runs_via.mp hr
  obtain ⟨e', he', rfl⟩ := List.mem_map.mp he
  exact h t' r hrun e' he'

/-- With given answers it ends as the program does with the same ones. -/
theorem exec_via {m : Embedding I J} {f : (o : J.Op) → J.Ans o} (p : Prog I ε α) :
    exec f (p.via m) = exec (fun o => (m.ans o).symm (f (m.op o))) p := by
  induction p with
  | done r => rfl
  | ask o k ih => exact ih _

/-- A last step that asks nothing. -/
theorem runs_bind_lift {p : Prog I ε α} {f : α → Except ε β} {t : Trace I} {r : Except ε β} :
    Runs (p >>= fun a => liftM (f a)) t r ↔ ∃ r', Runs p t r' ∧ r = r'.bind f := by
  rw [runs_bind]
  constructor
  · rintro (⟨e, hrun, rfl⟩ | ⟨a, t₁, t₂, rfl, hrun, rfl, rfl⟩)
    · exact ⟨.error e, hrun, rfl⟩
    · rw [List.append_nil]
      exact ⟨.ok a, hrun, rfl⟩
  · rintro ⟨r', hrun, rfl⟩
    cases r' with
    | error e => exact Or.inl ⟨e, hrun, rfl⟩
    | ok a => exact Or.inr ⟨a, t, [], (List.append_nil t).symm, hrun, rfl, rfl⟩

/-- A last step that only rewrites the value. -/
theorem runs_map {p : Prog I ε α} {f : α → β} {t : Trace I} {r : Except ε β} :
    Runs (f <$> p) t r ↔ ∃ r', Runs p t r' ∧ r = r'.map f := by
  refine (runs_bind_lift (p := p) (f := fun a => .ok (f a))).trans ?_
  refine exists_congr fun r' => and_congr_right fun _ => ?_
  cases r' <;> rfl

/-- The interface with the questions of both. -/
@[reducible] def Iface.sum (I J : Iface) : Iface := ⟨I.Op ⊕ J.Op, Sum.elim I.Ans J.Ans⟩

def Embedding.inl : Embedding I (I.sum J) := ⟨Sum.inl, fun _ => Equiv.refl _⟩

def Embedding.inr : Embedding J (I.sum J) := ⟨Sum.inr, fun _ => Equiv.refl _⟩

/-- No question is put to both parties. -/
theorem via_sums_disjoint {e : Event J} {t : Trace I} :
    e.via Embedding.inr ∉ t.map (Event.via (Embedding.inl (J := J))) := by
  intro h
  obtain ⟨e', -, he⟩ := List.mem_map.mp h
  have := congrArg Event.op he
  cases this

theorem via_inr_injective : Function.Injective (Event.via (Embedding.inr (I := I) (J := J))) := by
  rintro ⟨o, a⟩ ⟨o', a'⟩ h
  obtain ⟨rfl⟩ : Sum.inr (α := I.Op) o = Sum.inr o' := congrArg Event.op h
  cases h
  rfl

end Interaction
