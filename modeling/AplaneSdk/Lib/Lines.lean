/-
# Lines and fields of a text

A text over any alphabet, cut at a separator (`List.splitOn`) and trimmed of
blanks at both ends. A text put after another joins the last piece of the
first (`splitOn_append`), which is how an appended line can miss a line of
its own. Trimming takes nothing from a text whose ends are not blank
(`trim_append_of_blank`, `trim_append_of_not_blank`).

Key definitions: `lastPiece`, `trim`.
Key theorems: `splitOn_append`, `trim_append_of_blank`,
`trim_append_of_not_blank`, `head_trim`, `filter_trim`.
-/
import Mathlib.Data.List.DropRight

namespace Lines

variable {α : Type*} {xs ys : List α}

/-! ### Pieces -/

section Pieces

variable [DecidableEq α] {sep : α}

/-- What stands after the last separator. -/
def lastPiece (sep : α) (xs : List α) : List α := (xs.splitOn sep).getLast (List.splitOn_ne_nil sep xs)

theorem splitOn_eq_lastPiece (sep : α) (xs : List α) :
    xs.splitOn sep = (xs.splitOn sep).dropLast ++ [lastPiece sep xs] :=
  (List.dropLast_append_getLast (List.splitOn_ne_nil sep xs)).symm

/-- No piece holds the separator. -/
theorem not_mem_of_mem_splitOn : ∀ {xs piece : List α}, piece ∈ xs.splitOn sep → sep ∉ piece
  | [], piece, h => by
    rw [List.splitOn_nil, List.mem_singleton] at h
    rw [h]
    exact List.not_mem_nil
  | x :: xs, piece, h => by
    rw [List.splitOn_cons_eq_if_modifyHead] at h
    by_cases hx : x = sep
    · rw [if_pos (by simpa using hx), List.mem_cons] at h
      rcases h with rfl | h
      · exact List.not_mem_nil
      · exact not_mem_of_mem_splitOn h
    · rw [if_neg (by simpa using hx)] at h
      obtain ⟨first, rest, hsplit⟩ := List.exists_cons_of_ne_nil (List.splitOn_ne_nil sep xs)
      have ih : ∀ piece ∈ first :: rest, sep ∉ piece := by
        intro piece hpiece
        rw [← hsplit] at hpiece
        exact not_mem_of_mem_splitOn hpiece
      rw [hsplit, List.modifyHead_cons, List.mem_cons] at h
      rcases h with rfl | h
      · have hfirst := ih first (List.mem_cons_self ..)
        simp [Ne.symm hx, hfirst]
      · exact ih piece (List.mem_cons_of_mem _ h)

/-- A piece has nothing that the text has not. -/
theorem mem_of_mem_splitOn : ∀ {xs piece : List α} {c : α}, piece ∈ xs.splitOn sep → c ∈ piece → c ∈ xs
  | [], piece, c, h, hc => by
    rw [List.splitOn_nil, List.mem_singleton] at h
    rwa [h] at hc
  | x :: xs, piece, c, h, hc => by
    rw [List.splitOn_cons_eq_if_modifyHead] at h
    by_cases hx : x = sep
    · rw [if_pos (by simpa using hx), List.mem_cons] at h
      rcases h with rfl | h
      · cases hc
      · exact List.mem_cons_of_mem _ (mem_of_mem_splitOn h hc)
    · rw [if_neg (by simpa using hx)] at h
      obtain ⟨first, rest, hsplit⟩ := List.exists_cons_of_ne_nil (List.splitOn_ne_nil sep xs)
      have ih : ∀ piece ∈ first :: rest, c ∈ piece → c ∈ xs := by
        intro piece hpiece
        rw [← hsplit] at hpiece
        exact mem_of_mem_splitOn hpiece
      rw [hsplit, List.modifyHead_cons, List.mem_cons] at h
      rcases h with rfl | h
      · rcases List.mem_cons.mp hc with rfl | hc
        · exact List.mem_cons_self ..
        · exact List.mem_cons_of_mem _ (ih first (List.mem_cons_self ..) hc)
      · exact List.mem_cons_of_mem _ (ih piece (List.mem_cons_of_mem _ h) hc)

/-- A text put after another joins its last piece. -/
theorem splitOn_append (sep : α) : ∀ xs ys : List α, (xs ++ ys).splitOn sep =
    (xs.splitOn sep).dropLast ++ (ys.splitOn sep).modifyHead (lastPiece sep xs ++ ·)
  | [], ys => by
    obtain ⟨first, rest, hsplit⟩ := List.exists_cons_of_ne_nil (List.splitOn_ne_nil sep ys)
    simp [hsplit, lastPiece]
  | x :: xs, ys => by
    obtain ⟨first, rest, hsplit⟩ := List.exists_cons_of_ne_nil (List.splitOn_ne_nil sep xs)
    have ih := splitOn_append sep xs ys
    by_cases hx : x = sep
    · have hcons : (x :: xs).splitOn sep = [] :: xs.splitOn sep := by
        rw [List.splitOn_cons_eq_if_modifyHead, if_pos (by simpa using hx)]
      have hlast : lastPiece sep (x :: xs) = lastPiece sep xs := by
        unfold lastPiece
        simp only [hcons]
        rw [List.getLast_cons]
      rw [List.cons_append, List.splitOn_cons_eq_if_modifyHead, if_pos (by simpa using hx), ih, hcons,
        hlast, List.dropLast_cons_of_ne_nil (List.splitOn_ne_nil sep xs), List.cons_append]
    · have hcons : (x :: xs).splitOn sep = (x :: first) :: rest := by
        rw [List.splitOn_cons_eq_if_modifyHead, if_neg (by simpa using hx), hsplit, List.modifyHead_cons]
      rw [List.cons_append, List.splitOn_cons_eq_if_modifyHead, if_neg (by simpa using hx), ih, hcons,
        hsplit]
      unfold lastPiece
      simp only [hcons, hsplit]
      cases rest with
      | nil => simp [List.modifyHead_modifyHead, Function.comp_def]
      | cons second rest => simp

theorem splitOn_snoc (sep : α) (xs : List α) : (xs ++ [sep]).splitOn sep = xs.splitOn sep ++ [[]] := by
  rw [splitOn_append, List.splitOn_cons_eq_if_modifyHead, splitOn_eq_lastPiece sep xs]
  simp

/-- Nothing stands after a separator that is the last. -/
theorem lastPiece_snoc (sep : α) (xs : List α) : lastPiece sep (xs ++ [sep]) = [] := by
  unfold lastPiece
  simp only [splitOn_snoc, List.getLast_append_singleton]

end Pieces

/-! ### Blanks -/

section Blanks

variable (blank : α → Bool)

/-- Without the blanks at both ends. -/
def trim (xs : List α) : List α := (xs.dropWhile blank).rdropWhile blank

variable {blank}

theorem rdropWhile_append (h : ∃ y ∈ ys, blank y = false) (xs : List α) :
    (xs ++ ys).rdropWhile blank = xs ++ ys.rdropWhile blank := by
  obtain ⟨y, hy, hblank⟩ := h
  have hne : (ys.reverse.dropWhile blank).isEmpty = false := by
    rw [List.isEmpty_eq_false_iff]
    intro hnil
    rw [List.dropWhile_eq_nil_iff] at hnil
    have hy' := hnil y (by simpa using hy)
    rw [hblank] at hy'
    cases hy'
  unfold List.rdropWhile
  rw [List.reverse_append, List.dropWhile_append, hne]
  simp

theorem rdropWhile_of_last {y : α} (hy : blank y = false) (xs : List α) :
    (xs ++ [y]).rdropWhile blank = xs ++ [y] :=
  List.rdropWhile_concat_neg blank xs y (by simp [hy])

/-- Blanks before a text that starts and ends with none. -/
theorem trim_append_of_blank {first last : α} (hxs : ∀ x ∈ xs, blank x = true)
    (hfirst : blank first = false) (hlast : blank last = false) (mid : List α) :
    trim blank (xs ++ (first :: mid ++ [last])) = first :: mid ++ [last] := by
  unfold trim
  rw [List.dropWhile_append_of_pos hxs, List.cons_append,
    List.dropWhile_cons_of_neg (by simp [hfirst]), ← List.cons_append, rdropWhile_of_last hlast]

/-- After something that is not all blank only the start is trimmed. -/
theorem trim_append_of_not_blank {last : α} (hxs : ∃ x ∈ xs, blank x = false) (hlast : blank last = false)
    (mid : List α) : trim blank (xs ++ (mid ++ [last])) = xs.dropWhile blank ++ (mid ++ [last]) := by
  have hne : (xs.dropWhile blank).isEmpty = false := by
    obtain ⟨x, hx, hblank⟩ := hxs
    rw [List.isEmpty_eq_false_iff]
    intro hnil
    rw [List.dropWhile_eq_nil_iff] at hnil
    have hx' := hnil x hx
    rw [hblank] at hx'
    cases hx'
  unfold trim
  rw [List.dropWhile_append, hne]
  show (xs.dropWhile blank ++ (mid ++ [last])).rdropWhile blank = _
  rw [← List.append_assoc, rdropWhile_of_last hlast]

theorem trim_of_blank (hxs : ∀ x ∈ xs, blank x = true) : trim blank xs = [] := by
  unfold trim
  rw [List.dropWhile_eq_nil_iff.mpr hxs, List.rdropWhile_nil]

/-- What is trimmed starts with no blank. -/
theorem head_trim {first : α} {rest : List α} (h : trim blank xs = first :: rest) :
    blank first = false := by
  have hpre : first :: rest <+: xs.dropWhile blank := by
    rw [← h]
    exact List.rdropWhile_prefix blank _
  obtain ⟨more, hmore⟩ := hpre
  have hhead : (xs.dropWhile blank).head? = some first := by
    rw [← hmore]
    rfl
  have hnot := List.head?_dropWhile_not blank xs
  rw [hhead] at hnot
  simpa using hnot

/-- What is no blank stays. -/
theorem filter_dropWhile {p : α → Bool} (hp : ∀ x, p x = true → blank x = false) :
    ∀ xs : List α, (xs.dropWhile blank).filter p = xs.filter p
  | [] => rfl
  | x :: xs => by
    by_cases hx : blank x = true
    · have hpx : p x = false := by
        by_contra hcontra
        rw [hp x (by simpa using hcontra)] at hx
        cases hx
      rw [List.dropWhile_cons_of_pos hx, filter_dropWhile hp xs, List.filter_cons_of_neg (by simp [hpx])]
    · rw [List.dropWhile_cons_of_neg hx]

theorem filter_trim {p : α → Bool} (hp : ∀ x, p x = true → blank x = false) (xs : List α) :
    (trim blank xs).filter p = xs.filter p := by
  unfold trim List.rdropWhile
  rw [List.filter_reverse, filter_dropWhile hp, List.filter_reverse, List.reverse_reverse,
    filter_dropWhile hp]

/-- What neither starts nor ends with a blank stays as it is, and only that. -/
theorem trim_eq_self {xs : List α} :
    trim blank xs = xs ↔ (∀ x ∈ xs.head?, blank x = false) ∧ ∀ x ∈ xs.getLast?, blank x = false := by
  constructor
  · intro h
    have hdrop : xs.dropWhile blank = xs := by
      apply (List.dropWhile_sublist blank).eq_of_length_le
      have hlen := (List.rdropWhile_prefix blank (xs.dropWhile blank)).length_le
      rw [show (xs.dropWhile blank).rdropWhile blank = xs from h] at hlen
      exact hlen
    have hrdrop : xs.rdropWhile blank = xs := by
      unfold trim at h
      rwa [hdrop] at h
    constructor
    · intro x hx
      have hnot := List.head?_dropWhile_not blank xs
      rw [hdrop, Option.mem_def.mp hx] at hnot
      simpa using hnot
    · intro x hx
      obtain ⟨hne, rfl⟩ := List.mem_getLast?_eq_getLast hx
      have := List.rdropWhile_eq_self_iff.mp hrdrop hne
      simpa using this
  · rintro ⟨hhead, hlast⟩
    have hdrop : xs.dropWhile blank = xs := by
      cases xs with
      | nil => rfl
      | cons x xs => exact List.dropWhile_cons_of_neg (by simp [hhead x rfl])
    unfold trim
    rw [hdrop, List.rdropWhile_eq_self_iff]
    intro hne
    rw [hlast _ (List.getLast?_eq_getLast_of_ne_nil hne)]
    simp

theorem mem_of_mem_trim {x : α} (h : x ∈ trim blank xs) : x ∈ xs :=
  (List.dropWhile_sublist blank).mem ((List.rdropWhile_prefix blank _).sublist.mem h)

end Blanks

end Lines
