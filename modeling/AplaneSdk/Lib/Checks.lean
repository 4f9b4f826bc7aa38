/-
# Loops of checks

A validator walks over a list, checks each element and stops at the first
complaint. `forEach` is such a loop, `mapEach` one that computes a value for
each element. `claimAll` is one that also claims an
index for each element: the check of an element sees the indices claimed so
far, and a validator that refuses a claimed index leaves no duplicate behind.
`uncovered` is the test that closes an exact cover: the first position below
`n` that nobody claimed.

Key definitions: `forEach`, `mapEach`, `claimAll`, `uncovered`.
Key theorems: `forEach_ok`, `mapEach_ok`, `mapEach_forall₂`, `claimAll_ok`,
`claimAll_imp`, `perm_range_of_cover`.
-/
import Mathlib.Data.List.Forall2
import Mathlib.Data.List.Perm.Basic
import Mathlib.Data.List.Nodup
import Mathlib.Data.List.Range

namespace Checks

variable {α ι ε : Type}

/-- Check the elements in order, with their positions from `k` on. -/
def forEach (check : ℕ → α → Except ε Unit) : ℕ → List α → Except ε Unit
  | _, [] => .ok ()
  | k, x :: xs => do
    check k x
    forEach check (k + 1) xs

/-- Compute a value for each element, in order, with their positions from `k` on. -/
def mapEach {β : Type} (f : ℕ → α → Except ε β) : ℕ → List α → Except ε (List β)
  | _, [] => .ok []
  | k, x :: xs => do
    let y ← f k x
    let ys ← mapEach f (k + 1) xs
    .ok (y :: ys)

/-- Check the elements in order, each against the indices claimed before it,
and return all indices claimed, the latest first. -/
def claimAll (index : α → ι) (check : ℕ → List ι → α → Except ε Unit) :
    ℕ → List ι → List α → Except ε (List ι)
  | _, claimed, [] => .ok claimed
  | k, claimed, x :: xs => do
    check k claimed x
    claimAll index check (k + 1) (index x :: claimed) xs

/-- The first position below `n` that is not among the claimed indices. -/
def uncovered (n : ℕ) (claimed : List ℤ) : Option ℕ :=
  (List.range n).find? fun i => !claimed.contains (i : ℤ)

theorem forall_getElem? {P : α → Prop} {xs : List α} :
    (∀ (j : ℕ) (x : α), xs[j]? = some x → P x) ↔ ∀ x ∈ xs, P x := by
  constructor
  · intro h x hx
    obtain ⟨j, hj⟩ := List.mem_iff_getElem?.mp hx
    exact h j x hj
  · exact fun h j x hj => h x (List.mem_of_getElem? hj)

/-- One choice for each element of a list. -/
theorem exists_choices {β : Type} {P : α → β → Prop} : ∀ {xs : List α}, (∀ x ∈ xs, ∃ y, P x y) →
    ∃ ys : List β, ys.length = xs.length ∧
      ∀ (j : ℕ) x y, xs[j]? = some x → ys[j]? = some y → P x y
  | [], _ => ⟨[], rfl, by simp⟩
  | x :: xs, h => by
    obtain ⟨y, hy⟩ := h x (List.mem_cons_self ..)
    obtain ⟨ys, hlen, hys⟩ := exists_choices fun z hz => h z (List.mem_cons_of_mem _ hz)
    refine ⟨y :: ys, by simp [hlen], fun j a b ha hb => ?_⟩
    cases j with
    | zero =>
      cases ha
      cases hb
      exact hy
    | succ j => exact hys j a b (by simpa using ha) (by simpa using hb)

/-! ### `forEach` -/

theorem forEach_cons {check : ℕ → α → Except ε Unit} {k : ℕ} {x : α} {xs : List α} {u : Unit} :
    forEach check k (x :: xs) = .ok u ↔ check k x = .ok () ∧ forEach check (k + 1) xs = .ok u := by
  rw [forEach]
  cases check k x with
  | error e => simp [bind, Except.bind]
  | ok v => simp [bind, Except.bind]

/-- The loop passes when every check does. -/
theorem forEach_ok {check : ℕ → α → Except ε Unit} {k : ℕ} {xs : List α} {u : Unit} :
    forEach check k xs = .ok u ↔ ∀ j x, xs[j]? = some x → check (k + j) x = .ok () := by
  induction xs generalizing k with
  | nil => simp [forEach]
  | cons x xs ih =>
    rw [forEach_cons, ih]
    constructor
    · rintro ⟨h0, h⟩ j y hj
      cases j with
      | zero => simpa using (Option.some.inj hj) ▸ h0
      | succ j =>
        rw [show k + (j + 1) = k + 1 + j by omega]
        exact h j y (by simpa using hj)
    · intro h
      refine ⟨h 0 x rfl, fun j y hj => ?_⟩
      rw [show k + 1 + j = k + (j + 1) by omega]
      exact h (j + 1) y (by simpa using hj)

/-! ### `mapEach` -/

section Map

variable {β : Type} {f : ℕ → α → Except ε β}

theorem mapEach_cons {k : ℕ} {x : α} {xs : List α} {out : List β} :
    mapEach f k (x :: xs) = .ok out ↔
      ∃ y ys, f k x = .ok y ∧ mapEach f (k + 1) xs = .ok ys ∧ out = y :: ys := by
  rw [mapEach]
  cases f k x with
  | error e => simp [bind, Except.bind]
  | ok y =>
    cases mapEach f (k + 1) xs with
    | error e => simp [bind, Except.bind]
    | ok ys => simp [bind, Except.bind, eq_comm]

/-- The values are those of the elements, one each. -/
theorem mapEach_ok : ∀ {xs : List α} {k : ℕ} {ys : List β},
    mapEach f k xs = .ok ys ↔ xs.length = ys.length ∧
      ∀ (j : ℕ) x y, xs[j]? = some x → ys[j]? = some y → f (k + j) x = .ok y
  | [], k, ys => by
    cases ys <;> simp [mapEach]
  | x :: xs, k, [] => by
    rw [mapEach_cons]
    simp
  | x :: xs, k, y :: ys => by
    rw [mapEach_cons]
    constructor
    · rintro ⟨y', ys', h0, h, he⟩
      cases he
      obtain ⟨hl, hj⟩ := mapEach_ok.mp h
      refine ⟨by simp [hl], fun j a b ha hb => ?_⟩
      cases j with
      | zero =>
        cases ha
        cases hb
        exact h0
      | succ j =>
        rw [show k + (j + 1) = k + 1 + j by omega]
        exact hj j a b (by simpa using ha) (by simpa using hb)
    · rintro ⟨hl, hj⟩
      refine ⟨y, ys, hj 0 x y rfl rfl, mapEach_ok.mpr ⟨by simpa using hl, fun j a b ha hb => ?_⟩, rfl⟩
      rw [show k + 1 + j = k + (j + 1) by omega]
      exact hj (j + 1) a b (by simpa using ha) (by simpa using hb)

end Map

/-- A map that succeeds on the elements with `P`, with the value `g` of the
element, is an ordinary map where all elements have `P`. -/
theorem mapEach_pure {f : α → Except ε β} {P : α → Prop} {g : α → β}
    (hf : ∀ x y, f x = .ok y ↔ P x ∧ y = g x) : ∀ {xs : List α} {k : ℕ} {ys : List β},
    mapEach (fun _ => f) k xs = .ok ys ↔ ys = xs.map g ∧ ∀ x ∈ xs, P x
  | [], k, ys => by
    cases ys <;> simp [mapEach]
  | x :: xs, k, ys => by
    rw [mapEach_cons, List.map_cons, List.forall_mem_cons]
    constructor
    · rintro ⟨y, ys, hy, hys, rfl⟩
      obtain ⟨hx, rfl⟩ := (hf x y).mp hy
      obtain ⟨rfl, hxs⟩ := (mapEach_pure hf).mp hys
      exact ⟨rfl, hx, hxs⟩
    · rintro ⟨rfl, hx, hxs⟩
      exact ⟨g x, xs.map g, (hf x _).mpr ⟨hx, rfl⟩, (mapEach_pure hf).mpr ⟨rfl, hxs⟩, rfl⟩

theorem mapEach_mem {f : α → Except ε β} {xs : List α} {k : ℕ} {ys : List β} {y : β}
    (h : mapEach (fun _ => f) k xs = .ok ys) (hy : y ∈ ys) : ∃ x ∈ xs, f x = .ok y := by
  obtain ⟨hlen, hall⟩ := mapEach_ok.mp h
  obtain ⟨i, hi, rfl⟩ := List.getElem_of_mem hy
  have hx := List.getElem?_eq_getElem (hlen ▸ hi)
  exact ⟨_, List.mem_of_getElem? hx, hall i _ _ hx (List.getElem?_eq_getElem hi)⟩

/-- The values of a map keep the indices of the elements and have what each
value has on its own. -/
theorem mapEach_index {f : α → Except ε β} {index : α → ι} {index' : β → ι} {P : β → Prop}
    (hf : ∀ x y, f x = .ok y → index' y = index x ∧ P y) : ∀ {xs : List α} {k : ℕ} {ys : List β},
    mapEach (fun _ => f) k xs = .ok ys → ys.map index' = xs.map index ∧ ∀ y ∈ ys, P y
  | [], k, ys, h => by
    cases h
    simp
  | x :: xs, k, ys, h => by
    obtain ⟨y, ys, hy, hys, rfl⟩ := mapEach_cons.mp h
    obtain ⟨hi, hp⟩ := hf x y hy
    obtain ⟨his, hps⟩ := mapEach_index hf hys
    exact ⟨by rw [List.map_cons, List.map_cons, hi, his], List.forall_mem_cons.mpr ⟨hp, hps⟩⟩

/-- Two maps over one list: where the second succeeds whenever the first does,
its values are related to those of the first as each pair is. -/
theorem mapEach_sim {γ : Type} {f : ℕ → α → Except ε β} {f' : ℕ → α → Except ε γ} {Q : β → γ → Prop}
    (hf : ∀ k x y, f k x = .ok y → ∃ y', f' k x = .ok y' ∧ Q y y') :
    ∀ {xs : List α} {k : ℕ} {ys : List β}, mapEach f k xs = .ok ys →
      ∃ ys', mapEach f' k xs = .ok ys' ∧ List.Forall₂ Q ys ys'
  | [], k, ys, h => by
    cases h
    exact ⟨[], rfl, .nil⟩
  | x :: xs, k, ys, h => by
    obtain ⟨y, ys, hy, hys, rfl⟩ := mapEach_cons.mp h
    obtain ⟨y', hy', hq⟩ := hf k x y hy
    obtain ⟨ys', hys', hqs⟩ := mapEach_sim hf hys
    exact ⟨y' :: ys', mapEach_cons.mpr ⟨y', ys', hy', hys', rfl⟩, .cons hq hqs⟩

/-- Where a step relates an element to its value, the loop relates the lists. -/
theorem mapEach_rel {f : ℕ → α → Except ε β} {R : α → β → Prop} (hf : ∀ k x y, f k x = .ok y ↔ R x y) :
    ∀ {xs : List α} {k : ℕ} {ys : List β}, mapEach f k xs = .ok ys ↔ List.Forall₂ R xs ys
  | [], k, ys => by
    cases ys <;> simp [mapEach]
  | x :: xs, k, ys => by
    rw [mapEach_cons]
    constructor
    · rintro ⟨y, ys, hy, hys, rfl⟩
      exact .cons ((hf k x y).mp hy) ((mapEach_rel hf).mp hys)
    · intro h
      cases h with
      | cons hy hys => exact ⟨_, _, (hf k x _).mpr hy, (mapEach_rel hf).mpr hys, rfl⟩

/-- The values are those of the elements, one by one. -/
theorem mapEach_forall₂ {f : α → Except ε β} {xs : List α} {k : ℕ} {ys : List β} :
    mapEach (fun _ => f) k xs = .ok ys ↔ List.Forall₂ (fun x y => f x = .ok y) xs ys := by
  refine mapEach_rel fun k x y => ?_
  exact Iff.rfl

theorem mapEach_map {γ : Type} (f : β → Except ε γ) (g : α → β) : ∀ (k : ℕ) (xs : List α),
    mapEach (fun _ => f) k (xs.map g) = mapEach (fun _ x => f (g x)) k xs
  | _, [] => rfl
  | k, x :: xs => by
    rw [List.map_cons, mapEach, mapEach, mapEach_map f g (k + 1) xs]

theorem exists_of_forall₂ {R : α → β → Prop} {xs : List α} {ys : List β} (h : List.Forall₂ R xs ys) :
    ∀ x ∈ xs, ∃ y ∈ ys, R x y := by
  intro x hx
  obtain ⟨i, hi, rfl⟩ := List.getElem_of_mem hx
  have hi' : i < ys.length := h.length_eq ▸ hi
  exact ⟨ys[i], List.getElem_mem hi', h.get hi hi'⟩

theorem exists_of_forall₂' {R : α → β → Prop} {xs : List α} {ys : List β} (h : List.Forall₂ R xs ys) :
    ∀ y ∈ ys, ∃ x ∈ xs, R x y := by
  intro y hy
  obtain ⟨i, hi, rfl⟩ := List.getElem_of_mem hy
  have hi' : i < xs.length := h.length_eq ▸ hi
  exact ⟨xs[i], List.getElem_mem hi', h.get hi' hi⟩

/-- A list of related elements, one for each. -/
theorem exists_forall₂ {R : α → β → Prop} : ∀ {xs : List α},
    (∃ ys, List.Forall₂ R xs ys) ↔ ∀ x ∈ xs, ∃ y, R x y
  | [] => by simp
  | x :: xs => by
    rw [List.forall_mem_cons, ← exists_forall₂]
    constructor
    · rintro ⟨ys, h⟩
      cases h with
      | cons hx hxs => exact ⟨⟨_, hx⟩, ⟨_, hxs⟩⟩
    · rintro ⟨⟨y, hx⟩, ⟨ys, hxs⟩⟩
      exact ⟨y :: ys, .cons hx hxs⟩

theorem forall₂_comp {γ : Type} {R : α → β → Prop} {S : β → γ → Prop} : ∀ {xs : List α} {zs : List γ},
    (∃ ys, List.Forall₂ R xs ys ∧ List.Forall₂ S ys zs) ↔ List.Forall₂ (fun x z => ∃ y, R x y ∧ S y z) xs zs
  | [], zs => by
    cases zs <;> simp
  | x :: xs, zs => by
    constructor
    · rintro ⟨ys, hr, hs⟩
      cases hr with
      | cons hxy hr =>
        cases hs with
        | cons hyz hs => exact .cons ⟨_, hxy, hyz⟩ (forall₂_comp.mp ⟨_, hr, hs⟩)
    · intro h
      cases h with
      | cons hxz hrest =>
        obtain ⟨y, hxy, hyz⟩ := hxz
        obtain ⟨ys, hr, hs⟩ := forall₂_comp.mpr hrest
        exact ⟨y :: ys, .cons hxy hr, .cons hyz hs⟩

theorem forall₂_eq_map {f : α → β} {xs : List α} {ys : List β} :
    List.Forall₂ (fun x y => y = f x) xs ys ↔ ys = xs.map f := by
  rw [eq_comm (a := ys), ← List.forall₂_eq_eq_eq, List.forall₂_map_left_iff]
  simp only [eq_comm]

/-- One loop after another, over the values of the first. -/
theorem mapEach_comp {γ : Type} {f : α → Except ε β} {g : β → Except ε γ} {xs : List α} {k : ℕ} {zs : List γ} :
    (∃ ys, mapEach (fun _ => f) k xs = .ok ys ∧ mapEach (fun _ => g) k ys = .ok zs) ↔
      List.Forall₂ (fun x z => ∃ y, f x = .ok y ∧ g y = .ok z) xs zs := by
  simp only [mapEach_forall₂, forall₂_comp]

/-! ### `claimAll` -/

section Claim

variable {index : α → ι} {check check' : ℕ → List ι → α → Except ε Unit}

theorem claimAll_cons {k : ℕ} {claimed out : List ι} {x : α} {xs : List α} :
    claimAll index check k claimed (x :: xs) = .ok out ↔
      check k claimed x = .ok () ∧ claimAll index check (k + 1) (index x :: claimed) xs = .ok out := by
  rw [claimAll]
  cases check k claimed x with
  | error e => simp [bind, Except.bind]
  | ok v => simp [bind, Except.bind]

/-- Every element passed its check. -/
theorem claimAll_each {x : α} : ∀ {xs : List α} {k : ℕ} {claimed out : List ι},
    claimAll index check k claimed xs = .ok out → x ∈ xs → ∃ k' claimed', check k' claimed' x = .ok ()
  | y :: ys, k, claimed, out, h, hx => by
    obtain ⟨hcheck, hrest⟩ := claimAll_cons.mp h
    rcases List.mem_cons.mp hx with rfl | hx
    · exact ⟨k, claimed, hcheck⟩
    · exact claimAll_each hrest hx

/-- When a check asks for a free index in `R` and for something of the
element itself, the loop passes exactly when the indices are in `R`, free and
distinct, and every element has what is asked of it. -/
theorem claimAll_ok {R : ι → Prop} {E : ℕ → α → Prop}
    (hcheck : ∀ k claimed x,
      check k claimed x = .ok () ↔ (R (index x) ∧ index x ∉ claimed) ∧ E k x) :
    ∀ {xs : List α} {k : ℕ} {claimed out : List ι},
      claimAll index check k claimed xs = .ok out ↔
        out = (xs.map index).reverse ++ claimed ∧ (∀ i ∈ xs.map index, R i ∧ i ∉ claimed) ∧
          (xs.map index).Nodup ∧ ∀ j x, xs[j]? = some x → E (k + j) x
  | [], k, claimed, out => by simp [claimAll, eq_comm]
  | x :: xs, k, claimed, out => by
    rw [claimAll_cons, hcheck, claimAll_ok hcheck]
    simp only [List.map_cons, List.reverse_cons, List.append_assoc, List.singleton_append,
      List.nodup_cons, List.mem_cons, not_or, forall_eq_or_imp]
    constructor
    · rintro ⟨⟨h1, h2⟩, rfl, h3, h4, h5⟩
      refine ⟨rfl, ⟨h1, fun i hi => ⟨(h3 i hi).1, (h3 i hi).2.2⟩⟩,
        ⟨fun hx => (h3 _ hx).2.1 rfl, h4⟩, fun j y hj => ?_⟩
      cases j with
      | zero => exact (Option.some.inj hj) ▸ h2
      | succ j =>
        rw [show k + (j + 1) = k + 1 + j by omega]
        exact h5 j y (by simpa using hj)
    · rintro ⟨rfl, ⟨h1, h2⟩, ⟨h3, h4⟩, h5⟩
      refine ⟨⟨h1, h5 0 x rfl⟩, rfl, fun i hi => ⟨(h2 i hi).1, fun he => h3 (he ▸ hi), (h2 i hi).2⟩,
        h4, fun j y hj => ?_⟩
      rw [show k + 1 + j = k + (j + 1) by omega]
      exact h5 (j + 1) y (by simpa using hj)

/-- A loop of weaker checks passes too. -/
theorem claimAll_imp : ∀ {xs : List α} {k : ℕ} {claimed out : List ι},
    claimAll index check k claimed xs = .ok out →
    (∀ j c, ∀ x ∈ xs, check j c x = .ok () → check' j c x = .ok ()) →
    claimAll index check' k claimed xs = .ok out
  | [], _, _, _, h, _ => h
  | x :: xs, k, claimed, out, h, himp => by
    obtain ⟨h0, h1⟩ := claimAll_cons.mp h
    exact claimAll_cons.mpr ⟨himp _ _ x (List.mem_cons_self ..) h0,
      claimAll_imp h1 fun j c y hy => himp j c y (List.mem_cons_of_mem _ hy)⟩

end Claim

/-! ### Exact cover -/

theorem uncovered_eq_none {n : ℕ} {claimed : List ℤ} :
    uncovered n claimed = none ↔ ∀ i < n, (i : ℤ) ∈ claimed := by
  simp [uncovered]

/-- Distinct indices below `n` that leave no position out are the positions below `n`. -/
theorem perm_range_of_cover {n : ℕ} {l : List ℤ} (hn : l.Nodup)
    (hr : ∀ i ∈ l, 0 ≤ i ∧ i < n) (hc : ∀ i < n, (i : ℤ) ∈ l) :
    l.Perm ((List.range n).map Nat.cast) := by
  refine (List.perm_ext_iff_of_nodup hn ?_).mpr fun i => ?_
  · exact (List.nodup_range).map fun a b h => by exact_mod_cast h
  · rw [List.mem_map]
    constructor
    · intro hi
      obtain ⟨h0, h1⟩ := hr i hi
      exact ⟨i.toNat, List.mem_range.mpr (by omega), by omega⟩
    · rintro ⟨j, hj, rfl⟩
      exact hc j (List.mem_range.mp hj)

end Checks
