/-
# Trust on first use

A store of pins says which names are known and which keys are accepted for
them. An attempt shows a key under a name: a known name is compared with its
pins, an unknown one is pinned if the attempt may do so. Over any number of
attempts in a row the pins of a known name never change, and a name that was
unknown is only ever accepted with one key (`Store.Lawful.pinned`). `Name` and
`Key` are the names and keys the store is lawful for.

Key definitions: `Store`, `Store.verify`, `Store.accepted`, `Store.Lawful`.
Key theorems: `Store.Lawful.verify_same`, `Store.Lawful.pinned`.
-/
import Mathlib.Tactic.ByContra
import Mathlib.Tactic.TypeStar

namespace Pinning

structure Store (σ N K : Type*) where
  known : σ → N → Bool
  accepts : σ → N → K → Bool
  pin : σ → N → K → σ

structure Attempt (N K : Type*) where
  name : N
  key : K
  /-- Whether an unknown name may be pinned. -/
  trust : Bool

variable {σ N K : Type*} {S : Store σ N K} {Good : σ → Prop} {Name : N → Prop} {Key : K → Prop} {s : σ}
  {a b : Attempt N K} {as : List (Attempt N K)}

/-- One attempt: the verdict, and the store after it. -/
def Store.verify (S : Store σ N K) (s : σ) (a : Attempt N K) : Bool × σ :=
  if S.known s a.name = true then (S.accepts s a.name a.key, s)
  else if a.trust = true then (true, S.pin s a.name a.key)
  else (false, s)

/-- The store after some attempts in a row. -/
def Store.after (S : Store σ N K) (s : σ) (as : List (Attempt N K)) : σ :=
  as.foldl (fun s a => (S.verify s a).2) s

/-- The attempts that were accepted. -/
def Store.accepted (S : Store σ N K) : σ → List (Attempt N K) → List (Attempt N K)
  | _, [] => []
  | s, a :: as =>
    if (S.verify s a).1 = true then a :: S.accepted (S.verify s a).2 as else S.accepted (S.verify s a).2 as

/-- Two stores that agree on a name. -/
def Store.Same (S : Store σ N K) (s s' : σ) (n : N) : Prop :=
  S.known s' n = S.known s n ∧ ∀ k, S.accepts s' n k = S.accepts s n k

/-- A pin put for an unknown name is its only one, and no other name's. -/
structure Store.Lawful (S : Store σ N K) (Good : σ → Prop) (Name : N → Prop) (Key : K → Prop) : Prop where
  good : ∀ {s n k}, Good s → Name n → Key k → S.known s n = false → Good (S.pin s n k)
  own : ∀ {s n k}, Good s → Name n → Key k → S.known s n = false →
    S.known (S.pin s n k) n = true ∧ ∀ k', S.accepts (S.pin s n k) n k' = true ↔ k' = k
  other : ∀ {s n k n'}, Good s → Name n → Key k → S.known s n = false → Name n' → n' ≠ n →
    S.Same s (S.pin s n k) n'

theorem Store.Same.refl (S : Store σ N K) (s : σ) (n : N) : S.Same s s n := ⟨rfl, fun _ => rfl⟩

theorem Store.Same.trans {s₁ s₂ : σ} {n : N} (h : S.Same s s₁ n) (h' : S.Same s₁ s₂ n) : S.Same s s₂ n :=
  ⟨h'.1.trans h.1, fun k => (h'.2 k).trans (h.2 k)⟩

theorem Store.verify_known (h : S.known s a.name = true) : S.verify s a = (S.accepts s a.name a.key, s) :=
  if_pos h

theorem Store.verify_new (h : S.known s a.name = false) :
    S.verify s a = if a.trust = true then (true, S.pin s a.name a.key) else (false, s) := by
  unfold Store.verify
  rw [h, if_neg Bool.false_ne_true]

/-- What one attempt does: it pins the key of an unknown name, or nothing. -/
theorem Store.verify_cases (S : Store σ N K) (s : σ) (a : Attempt N K) :
    (S.known s a.name = true ∧ S.verify s a = (S.accepts s a.name a.key, s)) ∨
      (S.known s a.name = false ∧ a.trust = true ∧ S.verify s a = (true, S.pin s a.name a.key)) ∨
      (S.known s a.name = false ∧ a.trust = false ∧ S.verify s a = (false, s)) := by
  cases hknown : S.known s a.name with
  | true => exact .inl ⟨rfl, Store.verify_known hknown⟩
  | false =>
    rw [Store.verify_new hknown]
    cases htrust : a.trust with
    | true => exact .inr (.inl ⟨rfl, rfl, if_pos rfl⟩)
    | false => exact .inr (.inr ⟨rfl, rfl, if_neg Bool.false_ne_true⟩)

namespace Store.Lawful

theorem verify_good (h : S.Lawful Good Name Key) (hs : Good s) (ha : Name a.name ∧ Key a.key) :
    Good (S.verify s a).2 := by
  rcases S.verify_cases s a with ⟨-, hv⟩ | ⟨hnew, -, hv⟩ | ⟨-, -, hv⟩ <;> rw [hv]
  · exact hs
  · exact h.good hs ha.1 ha.2 hnew
  · exact hs

/-- An attempt leaves the names that are known, and those it is not about, as they were. -/
theorem verify_same (h : S.Lawful Good Name Key) (hs : Good s) (ha : Name a.name ∧ Key a.key) {n : N}
    (hname : Name n) (hn : S.known s n = true ∨ n ≠ a.name) : S.Same s (S.verify s a).2 n := by
  rcases S.verify_cases s a with ⟨-, hv⟩ | ⟨hnew, -, hv⟩ | ⟨-, -, hv⟩ <;> rw [hv]
  · exact .refl S s n
  · refine h.other hs ha.1 ha.2 hnew hname ?_
    rintro rfl
    rcases hn with hn | hn
    · rw [hnew] at hn
      cases hn
    · exact hn rfl
  · exact .refl S s n

/-- An accepted key is one that the store accepts from then on. -/
theorem verify_accepted (h : S.Lawful Good Name Key) (hs : Good s) (ha : Name a.name ∧ Key a.key)
    (haccept : (S.verify s a).1 = true) :
    S.known (S.verify s a).2 a.name = true ∧ S.accepts (S.verify s a).2 a.name a.key = true := by
  rcases S.verify_cases s a with ⟨hknown, hv⟩ | ⟨hnew, -, hv⟩ | ⟨-, -, hv⟩ <;> rw [hv] at haccept ⊢
  · exact ⟨hknown, haccept⟩
  · have hown := h.own hs ha.1 ha.2 hnew
    exact ⟨hown.1, (hown.2 a.key).mpr rfl⟩
  · cases haccept

variable (h : S.Lawful Good Name Key)
include h

theorem after_good : ∀ {as : List (Attempt N K)} {s : σ}, Good s → (∀ a ∈ as, Name a.name ∧ Key a.key) →
    Good (S.after s as)
  | [], _, hs, _ => hs
  | a :: as, s, hs, hv => by
    have hgood := h.verify_good hs (hv a (List.mem_cons_self ..))
    exact after_good (s := (S.verify s a).2) hgood fun b hb => hv b (List.mem_cons_of_mem _ hb)

/-- The pins of a known name stay as they are. -/
theorem after_same : ∀ {as : List (Attempt N K)} {s : σ}, Good s → (∀ a ∈ as, Name a.name ∧ Key a.key) →
    ∀ {n : N}, Name n → S.known s n = true → S.Same s (S.after s as) n
  | [], s, _, _, n, _, _ => .refl S s n
  | a :: as, s, hs, hv, n, hname, hn => by
    have ha := hv a (List.mem_cons_self ..)
    have hsame := h.verify_same hs ha hname (.inl hn)
    have hrest := after_same (h.verify_good hs ha) (fun b hb => hv b (List.mem_cons_of_mem _ hb)) hname
      (hsame.1.trans hn)
    exact hsame.trans hrest

/-- Whatever was accepted is accepted at the end. -/
theorem accepted_after : ∀ {as : List (Attempt N K)} {s : σ}, Good s →
    (∀ a ∈ as, Name a.name ∧ Key a.key) → ∀ a ∈ S.accepted s as,
      a ∈ as ∧ S.known (S.after s as) a.name = true ∧ S.accepts (S.after s as) a.name a.key = true
  | [], _, _, _, a, hmem => by cases hmem
  | b :: as, s, hs, hv, a, hmem => by
    have hb := hv b (List.mem_cons_self ..)
    have hrest := fun c hc => hv c (List.mem_cons_of_mem b hc)
    have hgood := h.verify_good hs hb
    have hlater (hmem : a ∈ S.accepted (S.verify s b).2 as) := accepted_after hgood hrest a hmem
    rw [Store.accepted] at hmem
    by_cases haccept : (S.verify s b).1 = true
    · rw [if_pos haccept, List.mem_cons] at hmem
      rcases hmem with rfl | hmem
      · obtain ⟨hknown, hkey⟩ := h.verify_accepted hs hb haccept
        have hsame := h.after_same hgood hrest hb.1 hknown
        exact ⟨List.mem_cons_self .., hsame.1.trans hknown, (hsame.2 a.key).trans hkey⟩
      · exact ⟨List.mem_cons_of_mem _ (hlater hmem).1, (hlater hmem).2⟩
    · rw [if_neg haccept] at hmem
      exact ⟨List.mem_cons_of_mem _ (hlater hmem).1, (hlater hmem).2⟩

/-- A name that was unknown accepts one key. -/
theorem after_unique : ∀ {as : List (Attempt N K)} {s : σ}, Good s → (∀ a ∈ as, Name a.name ∧ Key a.key) →
    ∀ {n : N}, Name n → S.known s n = false → S.known (S.after s as) n = true →
      ∃ k, ∀ k', S.accepts (S.after s as) n k' = true ↔ k' = k
  | [], s, _, _, n, _, hnew, hknown => by
    rw [Store.after, List.foldl_nil, hnew] at hknown
    cases hknown
  | a :: as, s, hs, hv, n, hname, hnew, hknown => by
    have ha := hv a (List.mem_cons_self ..)
    have hrest := fun c hc => hv c (List.mem_cons_of_mem a hc)
    have hgood := h.verify_good hs ha
    cases hthen : S.known (S.verify s a).2 n with
    | false => exact after_unique hgood hrest hname hthen hknown
    | true =>
      -- The attempt is the one that pinned the name.
      have hpinned : n = a.name ∧ (S.verify s a).2 = S.pin s a.name a.key := by
        rcases S.verify_cases s a with ⟨-, hp⟩ | ⟨hnew', -, hp⟩ | ⟨-, -, hp⟩ <;> rw [hp] at hthen ⊢
        · rw [hnew] at hthen
          cases hthen
        · by_contra hcontra
          have hne : n ≠ a.name := fun heq => hcontra ⟨heq, rfl⟩
          rw [(h.other hs ha.1 ha.2 hnew' hname hne).1, hnew] at hthen
          cases hthen
        · rw [hnew] at hthen
          cases hthen
      obtain ⟨rfl, hpin⟩ := hpinned
      have hsame := h.after_same hgood hrest hname hthen
      refine ⟨a.key, fun k' => ?_⟩
      change S.accepts (S.after (S.verify s a).2 as) a.name k' = true ↔ _
      rw [hsame.2 k', hpin]
      exact (h.own hs ha.1 ha.2 hnew).2 k'

/-- **Pinned on first use.** Attempts in a row, from a good store: the pins of
a known name stay as they are, every accepted key is one the last store
accepts, and a name that was unknown was accepted with one key only. -/
theorem pinned (hs : Good s) (hv : ∀ a ∈ as, Name a.name ∧ Key a.key) :
    (∀ n, Name n → S.known s n = true → S.Same s (S.after s as) n) ∧
      (∀ a ∈ S.accepted s as, S.known (S.after s as) a.name = true ∧
        S.accepts (S.after s as) a.name a.key = true) ∧
      ∀ a ∈ S.accepted s as, ∀ b ∈ S.accepted s as, S.known s a.name = false → a.name = b.name →
        a.key = b.key := by
  refine ⟨fun n hname hn => h.after_same hs hv hname hn, fun a ha => (h.accepted_after hs hv a ha).2,
    fun a ha b hb hnew hname => ?_⟩
  obtain ⟨hmem, hknown, hfirst⟩ := h.accepted_after hs hv a ha
  obtain ⟨-, -, hsecond⟩ := h.accepted_after hs hv b hb
  obtain ⟨k, hk⟩ := h.after_unique hs hv (hv a hmem).1 hnew hknown
  rw [← hname] at hsecond
  exact ((hk a.key).mp hfirst).trans ((hk b.key).mp hsecond).symm

end Store.Lawful

end Pinning
