/-
# Lists that are searched and grow

`intern x xs` is the position of `x`, which is put at the end of the list where
it is missing. Positions stay good while the list grows (`Grows`), and what a
list has grown by is new, stands there once and is nothing excluded.

Key definitions: `intern`, `Grows`.
Key theorems: `intern_getElem?`, `intern_grows`, `Grows.trans`, `Grows.getElem?`.
-/
import Mathlib.Data.List.Nodup

namespace Interning

variable {α : Type} {x : α} {xs ys zs : List α} {excluded : α → Prop}

/-- The position of `x`, put at the end where it is missing. -/
def intern [DecidableEq α] (x : α) (xs : List α) : ℕ × List α :=
  match xs.idxOf? x with
  | some i => (i, xs)
  | none => (xs.length, xs ++ [x])

/-- New elements stand behind the old ones, each once and none excluded. -/
def Grows (excluded : α → Prop) (xs ys : List α) : Prop :=
  ∃ new, ys = xs ++ new ∧ new.Nodup ∧ ∀ x ∈ new, x ∉ xs ∧ ¬ excluded x

theorem Grows.refl (xs : List α) : Grows excluded xs xs :=
  ⟨[], (List.append_nil xs).symm, List.nodup_nil, fun _ h => absurd h List.not_mem_nil⟩

theorem Grows.trans (h : Grows excluded xs ys) (h' : Grows excluded ys zs) : Grows excluded xs zs := by
  obtain ⟨new, rfl, hnodup, hnew⟩ := h
  obtain ⟨new', rfl, hnodup', hnew'⟩ := h'
  refine ⟨new ++ new', List.append_assoc .., ?_, fun x hx => ?_⟩
  · refine List.nodup_append.mpr ⟨hnodup, hnodup', fun x hx y hy heq => ?_⟩
    exact (hnew' y hy).1 (List.mem_append_right _ (heq ▸ hx))
  · rcases List.mem_append.mp hx with hx | hx
    · exact hnew x hx
    · exact ⟨fun hmem => (hnew' x hx).1 (List.mem_append_left _ hmem), (hnew' x hx).2⟩

theorem Grows.getElem? (h : Grows excluded xs ys) {i : ℕ} (hx : xs[i]? = some x) : ys[i]? = some x := by
  obtain ⟨new, rfl, -⟩ := h
  rw [List.getElem?_append_left (List.getElem?_eq_some_iff.mp hx).1, hx]

variable [DecidableEq α]

theorem intern_getElem? (x : α) (xs : List α) : (intern x xs).2[(intern x xs).1]? = some x := by
  unfold intern
  cases hfind : xs.idxOf? x with
  | some i =>
    rw [List.idxOf?_eq_some_iff] at hfind
    obtain ⟨hi, heq, -⟩ := hfind
    rw [List.getElem?_eq_getElem hi]
    simpa using heq
  | none => exact List.getElem?_concat_length

theorem intern_grows (excluded : α → Prop) (hx : ¬ excluded x) (xs : List α) : Grows excluded xs (intern x xs).2 := by
  unfold intern
  cases hfind : xs.idxOf? x with
  | some i => exact Grows.refl xs
  | none =>
    rw [List.idxOf?_eq_none_iff] at hfind
    refine ⟨[x], rfl, List.nodup_singleton x, fun y hy => ?_⟩
    rw [List.mem_singleton.mp hy]
    exact ⟨hfind, hx⟩

end Interning
