/-
# Grouping by a key, in order of first use

`groupBy key xs` is the loop `groups[key(x)].append(x)` over a map that keeps
the order of insertion: one entry for each key that occurs, holding the
elements with that key in their order. `tally key init step xs` is the loop
that keeps a running total for each key in such a map: its entries are the
totals of the groups. A map that keeps the last element of each key (`KeepsLast`)
answers a search that looks for the first one with the last, where that passes.

Key definitions: `addTo`, `groupBy`, `upsert`, `tally`, `lastAt`, `KeepsLast`,
`FirstIsLast`.
Key theorems: `lookup_groupBy`, `mem_groupBy`, `keys_groupBy_nodup`,
`exists_mem_groupBy`, `flatMap_groupBy_perm`, `find?_perm`, `insertionSort_perm`,
`tally_eq_map_groupBy`, `mem_tally`, `KeepsLast.find?_eq`, `find?_eq_lastAt_iff`.
-/
import Mathlib.Data.List.Induction
import Mathlib.Data.List.Nodup
import Mathlib.Data.List.Sort

namespace Grouping

variable {α κ : Type} [DecidableEq κ]

/-- Append `x` to the entry of `k`, which is created at the end if missing. -/
def addTo (k : κ) (x : α) : List (κ × List α) → List (κ × List α)
  | [] => [(k, [x])]
  | (k', ys) :: rest => if k' = k then (k', ys ++ [x]) :: rest else (k', ys) :: addTo k x rest

/-- The entries of `xs` by `key`, in order of first use. -/
def groupBy (key : α → κ) (xs : List α) : List (κ × List α) :=
  xs.foldl (fun groups x => addTo (key x) x groups) []

theorem mem_keys_addTo (k : κ) (x : α) : ∀ (groups : List (κ × List α)) (k' : κ),
    k' ∈ (addTo k x groups).map Prod.fst ↔ k' = k ∨ k' ∈ groups.map Prod.fst
  | [], k' => by simp [addTo]
  | (k₁, ys) :: rest, k' => by
    rw [addTo]
    split
    · rename_i h
      subst h
      simp
    · simp only [List.map_cons, List.mem_cons, mem_keys_addTo k x rest k']
      tauto

theorem keys_addTo_nodup (k : κ) (x : α) : ∀ groups : List (κ × List α),
    (groups.map Prod.fst).Nodup → ((addTo k x groups).map Prod.fst).Nodup
  | [], _ => by simp [addTo]
  | (k₁, ys) :: rest, h => by
    rw [List.map_cons, List.nodup_cons] at h
    rw [addTo]
    split
    · simpa using h
    · rename_i hne
      rw [List.map_cons, List.nodup_cons, mem_keys_addTo]
      exact ⟨by rintro (h' | h') <;> [exact hne h'; exact h.1 h'], keys_addTo_nodup k x rest h.2⟩

theorem lookup_addTo (k : κ) (x : α) : ∀ (groups : List (κ × List α)) (k' : κ),
    (addTo k x groups).lookup k' =
      if k' = k then some ((groups.lookup k).getD [] ++ [x]) else groups.lookup k'
  | [], k' => by
    by_cases h : k' = k
    · simp [addTo, h]
    · have h' : (k' == k) = false := by simpa using h
      simp [addTo, List.lookup_cons, h, h']
  | (k₁, ys) :: rest, k' => by
    rw [addTo]
    by_cases h₁ : k₁ = k
    · subst h₁
      by_cases h : k' = k₁
      · simp [h]
      · have h' : (k' == k₁) = false := by simpa using h
        simp [h, h', List.lookup_cons]
    · have h₁' : (k == k₁) = false := by simpa using fun he : k = k₁ => h₁ he.symm
      rw [if_neg h₁, List.lookup_cons, lookup_addTo k x rest k']
      by_cases h : k' = k
      · subst h
        simp [h₁', List.lookup_cons]
      · simp only [h, if_false, List.lookup_cons]

/-- With one entry a key, an entry is what looking its key up gives. -/
theorem lookup_of_mem {β : Type} : ∀ {groups : List (κ × β)} {k : κ} {y : β},
    (groups.map Prod.fst).Nodup → (k, y) ∈ groups → groups.lookup k = some y
  | (k₁, y₁) :: rest, k, y, hn, h => by
    rw [List.map_cons, List.nodup_cons] at hn
    rcases List.mem_cons.mp h with he | hr
    · cases he
      simp
    · have hne : (k == k₁) = false := by
        simp only [beq_eq_false_iff_ne, ne_eq]
        rintro rfl
        exact hn.1 (List.mem_map.mpr ⟨_, hr, rfl⟩)
      rw [List.lookup_cons, hne]
      exact lookup_of_mem hn.2 hr

/-- Tables with the same keys and related values. -/
theorem lookup_forall₂ {β γ : Type} {R : β → γ → Prop} {k : κ} {y : β} : ∀ {xs : List (κ × β)} {ys : List (κ × γ)},
    List.Forall₂ (fun p q => p.1 = q.1 ∧ R p.2 q.2) xs ys → xs.lookup k = some y →
      ∃ z, ys.lookup k = some z ∧ R y z
  | (k₁, y₁) :: xs, (k₂, z₂) :: ys, .cons ⟨hkey, hyz⟩ hrest, h => by
    have hkey : k₁ = k₂ := hkey
    subst hkey
    rw [List.lookup_cons] at h ⊢
    cases heq : k == k₁ with
    | true =>
      rw [heq] at h
      cases h
      exact ⟨z₂, rfl, hyz⟩
    | false =>
      rw [heq] at h
      exact lookup_forall₂ hrest h

/-- With one element a key, an element is the one found under its key. -/
theorem find?_of_mem {α : Type} {key : α → κ} {xs : List α} {x : α} (hn : (xs.map key).Nodup)
    (hx : x ∈ xs) : xs.find? (fun y => decide (key y = key x)) = some x := by
  cases hfind : xs.find? fun y => decide (key y = key x) with
  | none =>
    have := List.find?_eq_none.mp hfind x hx
    simp at this
  | some y =>
    have hkey : key y = key x := by simpa using List.find?_some hfind
    rw [List.inj_on_of_nodup_map hn (List.mem_of_find?_eq_some hfind) hx hkey]

/-- With one element a key, the order of the elements does not matter to a search. -/
theorem find?_perm {α : Type} {key : α → κ} {xs ys : List α} (hperm : ys.Perm xs) (hn : (xs.map key).Nodup) (k : κ) :
    ys.find? (fun x => decide (key x = k)) = xs.find? (fun x => decide (key x = k)) := by
  cases hfind : xs.find? fun x => decide (key x = k) with
  | none =>
    refine List.find?_eq_none.mpr fun x hx => ?_
    exact List.find?_eq_none.mp hfind x (hperm.mem_iff.mp hx)
  | some x =>
    have hkey : key x = k := by simpa using List.find?_some hfind
    subst hkey
    have hn' : (ys.map key).Nodup := (hperm.map key).nodup_iff.mpr hn
    exact find?_of_mem hn' (hperm.mem_iff.mpr (List.mem_of_find?_eq_some hfind))

/-- With no two elements that are equal in the order, sorting forgets the order
of the elements. -/
theorem insertionSort_perm {α : Type} {r : α → α → Prop} [DecidableRel r] [Std.Total r] [IsTrans α r]
    {xs ys : List α} (hperm : ys.Perm xs) (hanti : ∀ a ∈ xs, ∀ b ∈ xs, r a b → r b a → a = b) :
    ys.insertionSort r = xs.insertionSort r := by
  refine List.Perm.eq_of_pairwise (fun a b ha hb => ?_) (List.pairwise_insertionSort r ys)
    (List.pairwise_insertionSort r xs) ?_
  · have ha' : a ∈ xs := hperm.mem_iff.mp ((List.mem_insertionSort r).mp ha)
    exact hanti a ha' b ((List.mem_insertionSort r).mp hb)
  · exact (List.perm_insertionSort r ys).trans (hperm.trans (List.perm_insertionSort r xs).symm)

theorem mem_of_lookup {β : Type} : ∀ {groups : List (κ × β)} {k : κ} {y : β},
    groups.lookup k = some y → (k, y) ∈ groups
  | (k₁, y₁) :: rest, k, y, h => by
    rw [List.lookup_cons] at h
    split at h
    · rename_i he
      rw [beq_iff_eq] at he
      cases he
      cases h
      exact List.mem_cons_self ..
    · exact List.mem_cons_of_mem _ (mem_of_lookup h)

theorem groupBy_append_singleton (key : α → κ) (xs : List α) (x : α) :
    groupBy key (xs ++ [x]) = addTo (key x) x (groupBy key xs) := by
  simp [groupBy]

theorem flatMap_addTo_perm (k : κ) (x : α) : ∀ groups : List (κ × List α),
    ((addTo k x groups).flatMap Prod.snd).Perm (groups.flatMap Prod.snd ++ [x])
  | [] => by simp [addTo]
  | (k', ys) :: rest => by
    rw [addTo]
    split
    · simp only [List.flatMap_cons, List.append_assoc]
      exact List.perm_append_comm.append_left _
    · simp only [List.flatMap_cons, List.append_assoc]
      exact (flatMap_addTo_perm k x rest).append_left _

/-- The entries together hold the elements. -/
theorem flatMap_groupBy_perm (key : α → κ) (xs : List α) :
    ((groupBy key xs).flatMap Prod.snd).Perm xs := by
  induction xs using List.reverseRecOn with
  | nil => simp [groupBy]
  | append_singleton xs x ih =>
    rw [groupBy_append_singleton]
    exact (flatMap_addTo_perm _ _ _).trans (ih.append_right _)

/-- No key has two entries. -/
theorem keys_groupBy_nodup (key : α → κ) (xs : List α) :
    ((groupBy key xs).map Prod.fst).Nodup := by
  induction xs using List.reverseRecOn with
  | nil => simp [groupBy]
  | append_singleton xs x ih =>
    rw [groupBy_append_singleton]
    exact keys_addTo_nodup _ _ _ ih

/-- Looking a key up gives the elements with that key, in their order. -/
theorem lookup_groupBy (key : α → κ) (xs : List α) (k : κ) :
    (groupBy key xs).lookup k =
      if xs.filter (key · = k) = [] then none else some (xs.filter (key · = k)) := by
  induction xs using List.reverseRecOn with
  | nil => simp [groupBy]
  | append_singleton xs x ih =>
    rw [groupBy_append_singleton, lookup_addTo, List.filter_append]
    by_cases h : k = key x
    · subst h
      rw [if_pos rfl, ih]
      split <;> simp_all
    · have : ¬ key x = k := fun he => h he.symm
      rw [if_neg h, ih]
      simp [this]

theorem mem_groupBy {key : α → κ} {xs : List α} {k : κ} {ys : List α} :
    (k, ys) ∈ groupBy key xs ↔ ys ≠ [] ∧ ys = xs.filter (key · = k) := by
  constructor
  · intro h
    have hl := lookup_of_mem (keys_groupBy_nodup key xs) h
    rw [lookup_groupBy] at hl
    split at hl
    · cases hl
    · rename_i hne
      cases hl
      exact ⟨hne, rfl⟩
  · rintro ⟨hne, rfl⟩
    exact mem_of_lookup (by rw [lookup_groupBy, if_neg hne])

/-- Every element is in the entry of its key. -/
theorem exists_mem_groupBy (key : α → κ) {xs : List α} {x : α} (h : x ∈ xs) :
    (key x, xs.filter (key · = key x)) ∈ groupBy key xs :=
  mem_groupBy.mpr ⟨List.ne_nil_of_mem (List.mem_filter.mpr ⟨h, by simp⟩), rfl⟩

/-! ### Running totals -/

section Tally

variable {σ : Type} {init : σ}

/-- Update the total of `k`, which starts from `init` at the end if missing. -/
def upsert (init : σ) (f : σ → σ) (k : κ) : List (κ × σ) → List (κ × σ)
  | [] => [(k, f init)]
  | (k', s) :: rest => if k' = k then (k', f s) :: rest else (k', s) :: upsert init f k rest

/-- The totals of `xs` by `key`, in order of first use. -/
def tally (key : α → κ) (init : σ) (step : σ → α → σ) (xs : List α) : List (κ × σ) :=
  xs.foldl (fun totals x => upsert init (fun s => step s x) (key x) totals) []

theorem upsert_map (step : σ → α → σ) (k : κ) (x : α) : ∀ groups : List (κ × List α),
    upsert init (fun s => step s x) k (groups.map fun g => (g.1, g.2.foldl step init)) =
      (addTo k x groups).map fun g => (g.1, g.2.foldl step init)
  | [] => rfl
  | (k', ys) :: rest => by
    rw [List.map_cons, upsert, addTo]
    by_cases h : k' = k
    · simp [h]
    · simp [h, upsert_map step k x rest]

/-- A running total is the total of the group. -/
theorem tally_eq_map_groupBy (key : α → κ) (step : σ → α → σ) (xs : List α) :
    tally key init step xs = (groupBy key xs).map fun g => (g.1, g.2.foldl step init) := by
  induction xs using List.reverseRecOn with
  | nil => rfl
  | append_singleton xs x ih =>
    rw [groupBy_append_singleton, ← upsert_map, ← ih]
    simp [tally]

theorem mem_tally {key : α → κ} {step : σ → α → σ} {xs : List α} {k : κ} {s : σ} :
    (k, s) ∈ tally key init step xs ↔
      (∃ x ∈ xs, key x = k) ∧ s = (xs.filter (key · = k)).foldl step init := by
  rw [tally_eq_map_groupBy, List.mem_map]
  constructor
  · rintro ⟨⟨k', ys⟩, hg, he⟩
    cases he
    obtain ⟨hne, rfl⟩ := mem_groupBy.mp hg
    obtain ⟨x, hx⟩ := List.exists_mem_of_ne_nil _ hne
    rw [List.mem_filter, decide_eq_true_eq] at hx
    exact ⟨⟨x, hx⟩, rfl⟩
  · rintro ⟨⟨x, hx, rfl⟩, rfl⟩
    exact ⟨_, exists_mem_groupBy key hx, rfl⟩

end Tally

/-! ### The last element of a kind -/

section Last

variable {p q : α → Bool} {xs kept : List α} {x : α}

def lastAt (p : α → Bool) (xs : List α) : Option α := (xs.filter p).getLast?

theorem lastAt_append_singleton : lastAt p (xs ++ [x]) = if p x then some x else lastAt p xs := by
  unfold lastAt
  rw [List.filter_append]
  by_cases hx : p x = true
  · rw [List.filter_cons_of_pos hx, if_pos hx, List.filter_nil, List.getLast?_concat]
  · rw [List.filter_cons_of_neg hx, if_neg hx, List.filter_nil, List.append_nil]

theorem lastAt_some (h : lastAt p xs = some x) : x ∈ xs ∧ p x = true :=
  List.mem_filter.mp (List.mem_of_getLast? h)

/-- Of the elements of a kind, just the last one is kept. -/
def KeepsLast (p : α → Bool) (xs kept : List α) : Prop :=
  ∀ x, p x = true → (x ∈ kept ↔ lastAt p xs = some x)

theorem KeepsLast.find?_eq (h : KeepsLast p xs kept) (q : α → Bool) :
    kept.find? (fun x => p x && q x) = (lastAt p xs).filter q := by
  have hfound : ∀ {y}, kept.find? (fun x => p x && q x) = some y → lastAt p xs = some y ∧ q y = true := by
    intro y hy
    have hpq := List.find?_some hy
    rw [Bool.and_eq_true] at hpq
    exact ⟨(h y hpq.1).mp (List.mem_of_find?_eq_some hy), hpq.2⟩
  cases hfind : kept.find? (fun x => p x && q x) with
  | some y =>
    obtain ⟨hlast, hq⟩ := hfound hfind
    rw [hlast, Option.filter_some, if_pos hq]
  | none =>
    cases hlast : lastAt p xs with
    | none => rfl
    | some y =>
      have hp := (lastAt_some hlast).2
      have hfail := List.find?_eq_none.mp hfind y ((h y hp).mpr hlast)
      rw [hp, Bool.true_and] at hfail
      rw [Option.filter_some, if_neg hfail]

/-- What a search finds first is the last of its kind, or it finds nothing. -/
def FirstIsLast (p q : α → Bool) (xs : List α) : Prop :=
  (∀ x ∈ xs, p x = true → q x = false) ∨
    ∃ x, xs.find? (fun x => p x && q x) = some x ∧ lastAt p xs = some x

theorem find?_eq_lastAt_iff : xs.find? (fun x => p x && q x) = (lastAt p xs).filter q ↔ FirstIsLast p q xs := by
  constructor
  · intro h
    cases hfind : xs.find? (fun x => p x && q x) with
    | none =>
      refine Or.inl fun x hx hp => ?_
      have hfail := List.find?_eq_none.mp hfind x hx
      rwa [hp, Bool.true_and, Bool.not_eq_true] at hfail
    | some x =>
      rw [hfind] at h
      exact Or.inr ⟨x, hfind, (Option.filter_eq_some_iff.mp h.symm).1⟩
  · rintro (hnone | ⟨x, hfind, hlast⟩)
    · have hleft : xs.find? (fun x => p x && q x) = none := by
        refine List.find?_eq_none.mpr fun x hx hpq => ?_
        rw [Bool.and_eq_true] at hpq
        rw [hnone x hx hpq.1] at hpq
        cases hpq.2
      rw [hleft]
      cases hlast : lastAt p xs with
      | none => rfl
      | some x =>
        obtain ⟨hx, hp⟩ := lastAt_some hlast
        rw [Option.filter_some, hnone x hx hp]
        rfl
    · have hq := List.find?_some hfind
      rw [Bool.and_eq_true] at hq
      rw [hfind, hlast, Option.filter_some, if_pos hq.2]

end Last

end Grouping
