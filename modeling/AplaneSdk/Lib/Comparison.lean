/-
# Two runs, compared

A `Comparison` says when two events are answered alike, and what is seen of an
event. `Follows C R p q` compares a run of `p` with a run of `q`: if the first
ends well and the two are answered alike, the second ends well too, with a
value related by `R`, and what is seen of the two runs is the same. Programs
that follow each other fail together. A loop over a list is followed by the
loop over any permutation of it, as long as its steps are not seen.

Key definitions: `Comparison`, `Comparison.blind`, `Follows`, `SameButErrors`.
Key theorems: `follows_bind`, `follows_of_blind`, `Follows.congr`,
`follows_collect`, `follows_collect_perm`.
-/
import Mathlib.Data.List.Perm.Basic
import AplaneSdk.Lib.Interaction

namespace Interaction

open Prog

/-- What is compared of two runs. -/
structure Comparison (I : Iface) (ω : Type) where
  /-- The two events are answered alike, if they ask the same. -/
  alike : Event I → Event I → Prop
  see : Event I → List ω
  same : ω → ω → Prop

namespace Comparison

variable {I : Iface} {ω : Type}

/-- No event of one run is answered otherwise in the other. -/
def Alike (C : Comparison I ω) (t t' : Trace I) : Prop := ∀ e ∈ t, ∀ e' ∈ t', C.alike e e'

/-- What is seen of a run. -/
def seen (C : Comparison I ω) (t : Trace I) : List ω := t.flatMap C.see

/-- The comparison that sees nothing. -/
def blind (C : Comparison I ω) : Comparison I ω := { C with see := fun _ => [] }

variable {C : Comparison I ω} {t t' u u' : Trace I}

theorem Alike.mono (h : C.Alike t t') (ht : u ⊆ t) (ht' : u' ⊆ t') : C.Alike u u' :=
  fun e he e' he' => h e (ht he) e' (ht' he')

theorem Alike.left (h : C.Alike (t ++ u) (t' ++ u')) : C.Alike t t' :=
  h.mono (List.subset_append_left ..) (List.subset_append_left ..)

theorem Alike.right (h : C.Alike (t ++ u) (t' ++ u')) : C.Alike u u' :=
  h.mono (List.subset_append_right ..) (List.subset_append_right ..)

theorem seen_append : C.seen (t ++ u) = C.seen t ++ C.seen u := List.flatMap_append

theorem seen_eq_nil (h : ∀ e ∈ t, C.see e = []) : C.seen t = [] := List.flatMap_eq_nil_iff.mpr h

theorem seen_blind : C.blind.seen t = [] := seen_eq_nil fun _ _ => rfl

end Comparison

variable {I : Iface} {ε α β γ δ ω : Type} {C : Comparison I ω} {R R' : α → β → Prop} {Q : γ → δ → Prop}

/-- A run of `q` ends as well as one of `p` that is answered alike. -/
def Follows (C : Comparison I ω) (R : α → β → Prop) (p : Prog I ε α) (q : Prog I ε β) : Prop :=
  ∀ t a t' r, Runs p t (.ok a) → Runs q t' r → C.Alike t t' →
    ∃ b, r = .ok b ∧ R a b ∧ List.Forall₂ C.same (C.seen t) (C.seen t')

theorem Follows.imp {p : Prog I ε α} {q : Prog I ε β} (h : Follows C R p q) (himp : ∀ a b, R a b → R' a b) :
    Follows C R' p q := by
  intro t a t' r hp hq halike
  obtain ⟨b, hr, hab, hseen⟩ := h t a t' r hp hq halike
  exact ⟨b, hr, himp a b hab, hseen⟩

/-- Programs of which nothing is seen. -/
theorem follows_of_blind {p : Prog I ε α} {q : Prog I ε β} (h : Follows C.blind R p q)
    (hp : Emits (fun e => C.see e = []) p) (hq : Emits (fun e => C.see e = []) q) : Follows C R p q := by
  intro t a t' r hrun hrun' halike
  obtain ⟨b, hr, hab, -⟩ := h t a t' r hrun hrun' halike
  rw [Comparison.seen_eq_nil (hp t _ hrun), Comparison.seen_eq_nil (hq t' _ hrun')]
  exact ⟨b, hr, hab, .nil⟩

theorem follows_lift {x : Except ε α} {y : Except ε β} (h : ∀ a, x = .ok a → ∃ b, y = .ok b ∧ R a b) :
    Follows C R (liftM x : Prog I ε α) (liftM y) := by
  rintro t a t' r ⟨rfl, hx⟩ ⟨rfl, rfl⟩ -
  obtain ⟨b, hy, hab⟩ := h a hx.symm
  exact ⟨b, hy, hab, .nil⟩

theorem follows_pure {a : α} {b : β} (h : R a b) : Follows C R (pure a : Prog I ε α) (pure b) := by
  rintro t _ t' r ⟨rfl, ha⟩ ⟨rfl, rfl⟩ -
  cases ha
  exact ⟨b, rfl, h, .nil⟩

theorem follows_query {o o' : I.Op} {S : I.Ans o → I.Ans o' → Prop}
    (h : ∀ a b, C.alike ⟨o, a⟩ ⟨o', b⟩ → S a b) :
    Follows C.blind S (query o : Prog I ε (I.Ans o)) (query o') := by
  intro t a t' r hp hq halike
  obtain ⟨_, rfl, ha⟩ := runs_query.mp hp
  obtain ⟨b, rfl, rfl⟩ := runs_query.mp hq
  cases ha
  rw [Comparison.seen_blind, Comparison.seen_blind]
  exact ⟨b, rfl, h a b (halike _ (List.mem_singleton_self _) _ (List.mem_singleton_self _)), .nil⟩

/-- What follows may rely on the two runs that came before it. -/
theorem follows_bind {p : Prog I ε α} {q : Prog I ε β} {f : α → Prog I ε γ} {g : β → Prog I ε δ}
    (hpq : Follows C R p q)
    (hfg : ∀ t a t' b, Runs p t (.ok a) → Runs q t' (.ok b) → R a b → Follows C Q (f a) (g b)) :
    Follows C Q (p >>= f) (q >>= g) := by
  intro t c t' r hrun hrun' halike
  obtain ⟨a, t₁, t₂, rfl, hp, hf⟩ := runs_bind_ok.mp hrun
  rcases runs_bind.mp hrun' with ⟨e, hq, -⟩ | ⟨b, t₁', t₂', rfl, hq, hg⟩
  · -- the second program stopped where the first went on
    have halike' : C.Alike t₁ t' := halike.mono (List.subset_append_left ..) (List.Subset.refl _)
    obtain ⟨b, hb, -⟩ := hpq t₁ a t' _ hp hq halike'
    cases hb
  · obtain ⟨b', hb, hab, hseen⟩ := hpq t₁ a t₁' _ hp hq halike.left
    cases hb
    obtain ⟨d, hd, hcd, hseen'⟩ := hfg t₁ a t₁' b hp hq hab t₂ c t₂' r hf hg halike.right
    rw [Comparison.seen_append, Comparison.seen_append]
    exact ⟨d, hd, hcd, List.rel_append hseen hseen'⟩

theorem follows_lift_bind {x : Except ε α} {y : Except ε β} {f : α → Prog I ε γ} {g : β → Prog I ε δ}
    (h : ∀ a, x = .ok a → ∃ b, y = .ok b ∧ Follows C Q (f a) (g b)) :
    Follows C Q ((liftM x : Prog I ε α) >>= f) (liftM y >>= g) := by
  have hlift : Follows C (fun a b => x = .ok a ∧ y = .ok b) (liftM x : Prog I ε α) (liftM y : Prog I ε β) :=
    follows_lift fun a ha =>
      let ⟨b, hb, _⟩ := h a ha
      ⟨b, hb, ha, hb⟩
  refine follows_bind hlift fun _ a _ b _ _ hab => ?_
  obtain ⟨b', hb', hfollows⟩ := h a hab.1
  cases hab.2.symm.trans hb'
  exact hfollows

theorem follows_mapError {p : Prog I ε α} {q : Prog I ε β} {w w' : ε → ε} (h : Follows C R p q) :
    Follows C R (p.mapError w) (q.mapError w') := by
  intro t a t' r hp hq halike
  obtain ⟨r', hrun, rfl⟩ := runs_mapError.mp hq
  obtain ⟨b, rfl, hab, hseen⟩ := h t a t' r' (runs_mapError_ok.mp hp) hrun halike
  exact ⟨b, rfl, hab, hseen⟩

/-! ### Programs with the same runs -/

/-- Programs that differ in the values of their errors at most. -/
structure SameButErrors (p q : Prog I ε α) : Prop where
  ok : ∀ t a, Runs p t (.ok a) ↔ Runs q t (.ok a)
  error : ∀ t, (∃ e, Runs p t (.error e)) ↔ ∃ e, Runs q t (.error e)

namespace SameButErrors

theorem refl (p : Prog I ε α) : SameButErrors p p := ⟨fun _ _ => Iff.rfl, fun _ => Iff.rfl⟩

theorem symm {p q : Prog I ε α} (h : SameButErrors p q) : SameButErrors q p :=
  ⟨fun t a => (h.ok t a).symm, fun t => (h.error t).symm⟩

theorem lift {x y : Except ε α} (h : ∀ a, x = .ok a ↔ y = .ok a) :
    SameButErrors (liftM x : Prog I ε α) (liftM y) := by
  have hfails : ∀ {x y : Except ε α}, (∀ a, y = .ok a → x = .ok a) → ∀ t,
      (∃ e, Runs (liftM x : Prog I ε α) t (.error e)) → ∃ e, Runs (liftM y : Prog I ε α) t (.error e) := by
    rintro x y hxy t ⟨e, rfl, rfl⟩
    cases y with
    | error e' => exact ⟨e', rfl, rfl⟩
    | ok a => cases hxy a rfl
  refine ⟨fun t a => ?_, fun t => ⟨hfails (fun a => (h a).mpr) t, hfails (fun a => (h a).mp) t⟩⟩
  have hsame : Except.ok a = x ↔ Except.ok a = y := eq_comm.trans ((h a).trans eq_comm)
  rw [runs_lift, runs_lift, hsame]

theorem bind {p q : Prog I ε α} {f g : α → Prog I ε γ} (hpq : SameButErrors p q)
    (hfg : ∀ a, SameButErrors (f a) (g a)) : SameButErrors (p >>= f) (q >>= g) := by
  have hok : ∀ {p q : Prog I ε α} {f g : α → Prog I ε γ}, SameButErrors p q → (∀ a, SameButErrors (f a) (g a)) →
      ∀ t c, Runs (p >>= f) t (.ok c) → Runs (q >>= g) t (.ok c) := by
    intro p q f g hpq hfg t c h
    obtain ⟨a, t₁, t₂, rfl, hp, hf⟩ := runs_bind_ok.mp h
    exact runs_bind_ok.mpr ⟨a, t₁, t₂, rfl, (hpq.ok t₁ a).mp hp, ((hfg a).ok t₂ c).mp hf⟩
  have herror : ∀ {p q : Prog I ε α} {f g : α → Prog I ε γ}, SameButErrors p q → (∀ a, SameButErrors (f a) (g a)) →
      ∀ t, (∃ e, Runs (p >>= f) t (.error e)) → ∃ e, Runs (q >>= g) t (.error e) := by
    rintro p q f g hpq hfg t ⟨e, h⟩
    rcases runs_bind.mp h with ⟨e', hp, -⟩ | ⟨a, t₁, t₂, rfl, hp, hf⟩
    · obtain ⟨e'', hq⟩ := (hpq.error t).mp ⟨e', hp⟩
      exact ⟨e'', runs_bind.mpr (.inl ⟨e'', hq, rfl⟩)⟩
    · obtain ⟨e'', hg⟩ := ((hfg a).error t₂).mp ⟨e, hf⟩
      exact ⟨e'', runs_bind.mpr (.inr ⟨a, t₁, t₂, rfl, (hpq.ok t₁ a).mp hp, hg⟩)⟩
  exact ⟨fun t c => ⟨hok hpq hfg t c, hok hpq.symm (fun a => (hfg a).symm) t c⟩,
    fun t => ⟨herror hpq hfg t, herror hpq.symm (fun a => (hfg a).symm) t⟩⟩

end SameButErrors

theorem Follows.congr {p p' : Prog I ε α} {q q' : Prog I ε β} (h : Follows C R p q) (hp : SameButErrors p p')
    (hq : SameButErrors q q') : Follows C R p' q' := by
  intro t a t' r hrun hrun' halike
  have hrun := (hp.ok t a).mpr hrun
  cases r with
  | ok b => exact h t a t' _ hrun ((hq.ok t' b).mpr hrun') halike
  | error e =>
    obtain ⟨e', hrun'⟩ := (hq.error t').mpr ⟨e, hrun'⟩
    obtain ⟨b, hb, -⟩ := h t a t' _ hrun hrun' halike
    cases hb

/-! ### Loops -/

/-- The values of a loop, each with the part of the run it comes from. -/
theorem runs_collect_forall₂ {f : γ → Prog I ε α} : ∀ {xs : List γ} {t : Trace I} {ys : List α},
    Runs (collect f xs) t (.ok ys) →
      List.Forall₂ (fun x y => ∃ t', t' ⊆ t ∧ Runs (f x) t' (.ok y)) xs ys
  | [], t, ys, h => by
    cases h.2
    exact .nil
  | x :: xs, t, ys, h => by
    obtain ⟨y, t₁, t₂, rfl, hx, hrest⟩ := runs_bind_ok.mp h
    obtain ⟨ys', t₃, t₄, rfl, hxs, rfl, hys⟩ := runs_bind_ok.mp hrest
    cases hys
    rw [List.append_nil]
    refine .cons ⟨t₁, List.subset_append_left .., hx⟩ ((runs_collect_forall₂ hxs).imp fun x y hxy => ?_)
    obtain ⟨t', ht', hrun⟩ := hxy
    exact ⟨t', List.Subset.trans ht' (List.subset_append_right ..), hrun⟩

/-- A loop over elements that ended well in another run. -/
theorem runs_collect_follows {f : γ → Prog I ε α} {g : γ → Prog I ε β} {t : Trace I} :
    ∀ {xs : List γ} {zs : List α} {t' : Trace I} {r : Except ε (List β)},
    (∀ x ∈ xs, Follows C.blind R (f x) (g x)) →
      List.Forall₂ (fun x z => ∃ u, u ⊆ t ∧ Runs (f x) u (.ok z)) xs zs →
        Runs (collect g xs) t' r → C.Alike t t' → ∃ ys, r = .ok ys ∧ List.Forall₂ R zs ys
  | [], _, t', r, _, .nil, hrun, _ => ⟨[], hrun.2, .nil⟩
  | x :: xs, z :: zs, t', r, h, .cons ⟨u, hu, hx⟩ hxs, hrun, halike => by
    have hhead := h x (List.mem_cons_self ..)
    rcases runs_bind.mp hrun with ⟨e, hg, -⟩ | ⟨y, t₁, t₂, rfl, hg, hrest⟩
    · obtain ⟨y, hy, -⟩ := hhead u z t' _ hx hg (halike.mono hu (List.Subset.refl _))
      cases hy
    · obtain ⟨y', hy, hzy, -⟩ := hhead u z t₁ _ hx hg (halike.mono hu (List.subset_append_left ..))
      cases hy
      have hsub : ∀ {v w : Trace I}, t₂ = v ++ w → C.Alike t v := by
        intro v w hv
        refine halike.mono (List.Subset.refl _) ?_
        rw [hv]
        exact List.Subset.trans (List.subset_append_left ..) (List.subset_append_right ..)
      have htail : ∀ {v w : Trace I} {r' : Except ε (List β)}, t₂ = v ++ w → Runs (collect g xs) v r' →
          ∃ ys, r' = .ok ys ∧ List.Forall₂ R zs ys := fun hv hrun' =>
        runs_collect_follows (fun x hx => h x (List.mem_cons_of_mem _ hx)) hxs hrun' (hsub hv)
      rcases runs_bind.mp hrest with ⟨e, hg', -⟩ | ⟨ys, v, w, rfl, hg', hend⟩
      · obtain ⟨ys, hys, -⟩ := htail (List.append_nil _).symm hg'
        cases hys
      · obtain ⟨ys', hys, hall⟩ := htail rfl hg'
        cases hys
        exact ⟨y :: ys, hend.2, .cons hzy hall⟩

/-- A loop whose steps follow each other. -/
theorem follows_collect {f : γ → Prog I ε α} {g : γ → Prog I ε β} {xs : List γ}
    (h : ∀ x ∈ xs, Follows C.blind R (f x) (g x)) :
    Follows C.blind (List.Forall₂ R) (collect f xs) (collect g xs) := by
  intro t ys t' r hp hq halike
  obtain ⟨ys', hr, hall⟩ := runs_collect_follows h (runs_collect_forall₂ hp) hq halike
  rw [Comparison.seen_blind, Comparison.seen_blind]
  exact ⟨ys', hr, hall, .nil⟩

/-- A loop over the same elements in another order: the values are the same,
in that order. -/
theorem follows_collect_perm {f : γ → Prog I ε α} {g : γ → Prog I ε β} {xs xs' : List γ} (hperm : xs'.Perm xs)
    (h : ∀ x ∈ xs, Follows C.blind R (f x) (g x)) :
    Follows C.blind (fun ys ys' => ∃ zs, zs.Perm ys ∧ List.Forall₂ R zs ys') (collect f xs) (collect g xs') := by
  intro t ys t' r hp hq halike
  obtain ⟨zs, hzs, hpermuted⟩ := List.perm_comp_forall₂ hperm (runs_collect_forall₂ hp)
  obtain ⟨ys', hr, hall⟩ := runs_collect_follows (fun x hx => h x (hperm.mem_iff.mp hx)) hzs hq halike
  rw [Comparison.seen_blind, Comparison.seen_blind]
  exact ⟨ys', hr, ⟨zs, hpermuted, hall⟩, .nil⟩

end Interaction
