/-
# Base64 text

The standard alphabet, its digits read as bytes, and two readings of the
padding: `decode` wants the text padded to whole quads, `forgiving` also
reads it unpadded and with blanks in it. Bits left over in the last digit are
dropped. What `decode` reads, `forgiving` reads the same
(`forgiving_of_decode`), also with blanks put in (`forgiving_of_decode_filter`).

`encode` writes the padded text, and `lenient` is the reading that never
fails: it passes over what is no digit and ends at the first pad. It reads
back what `encode` wrote (`lenient_encode`), and so does `decode`
(`decode_encode`). The texts that decode are the rows of quads `Quads`.

Key definitions: `sextet`, `unpadded`, `dropPad`, `decode`, `forgiving`,
`encode`, `lenient`, `Quads`.
Key theorems: `mem_of_decode`, `decode_ne_nil`, `forgiving_of_decode`,
`forgiving_of_decode_filter`, `lenient_encode`, `length_lenient_le`,
`lenient_skip`, `decode_iff_quads`, `lenient_of_decode`, `decode_encode`.
-/
import Mathlib.Data.List.Basic

namespace Base64

/-- The value of a digit of the standard alphabet. -/
def sextet (c : Char) : Option ℕ :=
  if 65 ≤ c.toNat ∧ c.toNat ≤ 90 then some (c.toNat - 65)
  else if 97 ≤ c.toNat ∧ c.toNat ≤ 122 then some (c.toNat - 71)
  else if 48 ≤ c.toNat ∧ c.toNat ≤ 57 then some (c.toNat + 4)
  else if c = '+' then some 62
  else if c = '/' then some 63
  else none

/-- The bytes of a row of digits. One digit over is not enough for a byte. -/
def unpadded : List Char → Option (List UInt8)
  | [] => some []
  | [_] => none
  | [a, b] => do
    let x ← sextet a
    let y ← sextet b
    pure [UInt8.ofNat (4 * x + y / 16)]
  | [a, b, c] => do
    let x ← sextet a
    let y ← sextet b
    let z ← sextet c
    pure [UInt8.ofNat (4 * x + y / 16), UInt8.ofNat (16 * (y % 16) + z / 4)]
  | a :: b :: c :: d :: rest => do
    let x ← sextet a
    let y ← sextet b
    let z ← sextet c
    let w ← sextet d
    let bytes ← unpadded rest
    pure (UInt8.ofNat (4 * x + y / 16) :: UInt8.ofNat (16 * (y % 16) + z / 4) ::
      UInt8.ofNat (64 * (z % 4) + w) :: bytes)

/-- Without one or two pads at the end. -/
def dropPad : List Char → List Char
  | [] => []
  | ['='] => []
  | ['=', '='] => []
  | c :: rest => c :: dropPad rest

/-- Padded to whole quads, and nothing but digits before the padding. -/
def decode (text : List Char) : Option (List UInt8) :=
  if text.length % 4 = 0 then unpadded (dropPad text) else none

/-- Tab, line feed, form feed, carriage return, space. -/
def isBlank (c : Char) : Bool :=
  c.toNat == 9 || c.toNat == 10 || c.toNat == 12 || c.toNat == 13 || c.toNat == 32

/-- Blanks anywhere, and the padding may be missing. -/
def forgiving (text : List Char) : Option (List UInt8) :=
  let digits := text.filter (! isBlank ·)
  unpadded (if digits.length % 4 = 0 then dropPad digits else digits)

/-! ### What a decoder reads -/

variable {text : List Char} {bytes : List UInt8}

theorem mem_of_unpadded : ∀ {text : List Char} {bytes : List UInt8}, unpadded text = some bytes →
    ∀ c ∈ text, ∃ n, sextet c = some n
  | [], _, _ => by simp
  | [_], _, h => by cases h
  | [a, b], _, h => by
    simp only [unpadded, Option.bind_eq_bind, Option.bind_eq_some_iff] at h
    obtain ⟨x, hx, y, hy, -⟩ := h
    simp [hx, hy]
  | [a, b, c], _, h => by
    simp only [unpadded, Option.bind_eq_bind, Option.bind_eq_some_iff] at h
    obtain ⟨x, hx, y, hy, z, hz, -⟩ := h
    simp [hx, hy, hz]
  | a :: b :: c :: d :: rest, _, h => by
    simp only [unpadded, Option.bind_eq_bind, Option.bind_eq_some_iff] at h
    obtain ⟨x, hx, y, hy, z, hz, w, hw, bytes, hrest, -⟩ := h
    have ih := mem_of_unpadded hrest
    simpa [hx, hy, hz, hw] using ih

theorem unpadded_ne_nil : ∀ {text : List Char} {bytes : List UInt8}, unpadded text = some bytes →
    text ≠ [] → bytes ≠ []
  | [], _, _, hne => absurd rfl hne
  | [_], _, h, _ => by cases h
  | [a, b], _, h, _ => by
    simp only [unpadded, Option.bind_eq_bind, Option.bind_eq_some_iff] at h
    obtain ⟨x, -, y, -, h⟩ := h
    cases h
    simp
  | [a, b, c], _, h, _ => by
    simp only [unpadded, Option.bind_eq_bind, Option.bind_eq_some_iff] at h
    obtain ⟨x, -, y, -, z, -, h⟩ := h
    cases h
    simp
  | a :: b :: c :: d :: rest, _, h, _ => by
    simp only [unpadded, Option.bind_eq_bind, Option.bind_eq_some_iff] at h
    obtain ⟨x, -, y, -, z, -, w, -, bytes, -, h⟩ := h
    cases h
    simp

theorem mem_dropPad {c : Char} (h : c ∈ text) : c ∈ dropPad text ∨ c = '=' := by
  fun_induction dropPad text with
  | case1 => cases h
  | case2 => simpa using h
  | case3 => simpa using h
  | case4 d rest _ _ ih =>
    rcases List.mem_cons.mp h with rfl | hrest
    · exact .inl (List.mem_cons_self ..)
    · rcases ih hrest with hin | hpad
      · exact .inl (List.mem_cons_of_mem _ hin)
      · exact .inr hpad

theorem dropPad_eq_nil (h : dropPad text = []) : text.length ≤ 2 := by
  fun_cases dropPad text with
  | case1 => simp
  | case2 => simp
  | case3 => simp
  | case4 c rest h1 h2 =>
    rw [dropPad] at h
    · cases h
    · exact h1
    · exact h2

theorem decode_some (h : decode text = some bytes) :
    text.length % 4 = 0 ∧ unpadded (dropPad text) = some bytes := by
  unfold decode at h
  split at h
  · exact ⟨‹_›, h⟩
  · cases h

/-- A text that decodes is made of digits and pads. -/
theorem mem_of_decode (h : decode text = some bytes) : ∀ c ∈ text, (∃ n, sextet c = some n) ∨ c = '=' := by
  obtain ⟨-, hdigits⟩ := decode_some h
  intro c hc
  rcases mem_dropPad hc with hin | hpad
  · exact .inl (mem_of_unpadded hdigits c hin)
  · exact .inr hpad

/-- A text that is not empty decodes to at least one byte. -/
theorem decode_ne_nil (h : decode text = some bytes) (hne : text ≠ []) : bytes ≠ [] := by
  obtain ⟨hquads, hdigits⟩ := decode_some h
  apply unpadded_ne_nil hdigits
  intro hnil
  have hshort := dropPad_eq_nil hnil
  have hpos := List.length_pos_of_ne_nil hne
  omega

/-! ### Blanks -/

theorem isBlank_of_sextet {c : Char} {n : ℕ} (h : sextet c = some n) : isBlank c = false := by
  have hplus : '+'.toNat = 43 := rfl
  have hslash : '/'.toNat = 47 := rfl
  unfold sextet at h
  simp only [isBlank, Bool.or_eq_false_iff, beq_eq_false_iff_ne]
  split at h
  · omega
  · split at h
    · omega
    · split at h
      · omega
      · split at h
        · subst c
          omega
        · split at h
          · subst c
            omega
          · cases h

theorem isBlank_of_decode (h : decode text = some bytes) : ∀ c ∈ text, isBlank c = false := by
  intro c hc
  rcases mem_of_decode h c hc with ⟨n, hn⟩ | rfl
  · exact isBlank_of_sextet hn
  · rfl

/-- The forgiving reading agrees with the strict one. -/
theorem forgiving_of_decode (h : decode text = some bytes) : forgiving text = some bytes := by
  have hblank : text.filter (! isBlank ·) = text := by
    rw [List.filter_eq_self]
    intro c hc
    rw [isBlank_of_decode h c hc]
    rfl
  obtain ⟨hquads, hdigits⟩ := decode_some h
  unfold forgiving
  rw [hblank]
  show unpadded (if text.length % 4 = 0 then dropPad text else text) = some bytes
  rw [if_pos hquads, hdigits]

/-- What is left of a text without some of its blanks decodes as the
forgiving reading decodes the text. -/
theorem forgiving_of_decode_filter {keep : Char → Bool} (hkeep : ∀ c, keep c = false → isBlank c = true)
    (h : decode (text.filter keep) = some bytes) : forgiving text = some bytes := by
  rw [← forgiving_of_decode h]
  unfold forgiving
  have hfilter : (text.filter keep).filter (! isBlank ·) = text.filter (! isBlank ·) := by
    rw [List.filter_filter]
    apply List.filter_congr
    intro c _
    cases hc : keep c with
    | true => rw [Bool.and_true]
    | false => rw [hkeep c hc]; rfl
  rw [hfilter]

/-! ### Writing, and the reading that never fails -/

/-- The digit of a value below 64. -/
def digit (n : ℕ) : Char :=
  if n < 26 then Char.ofNat (n + 65)
  else if n < 52 then Char.ofNat (n + 71)
  else if n < 62 then Char.ofNat (n - 4)
  else if n = 62 then '+'
  else '/'

/-- The text of the bytes, padded to whole quads. -/
def encode : List UInt8 → List Char
  | [] => []
  | [a] => [digit (a.toNat / 4), digit (16 * (a.toNat % 4)), '=', '=']
  | [a, b] =>
    [digit (a.toNat / 4), digit (16 * (a.toNat % 4) + b.toNat / 16), digit (4 * (b.toNat % 16)), '=']
  | a :: b :: c :: rest =>
    digit (a.toNat / 4) :: digit (16 * (a.toNat % 4) + b.toNat / 16) ::
      digit (4 * (b.toNat % 16) + c.toNat / 64) :: digit (c.toNat % 64) :: encode rest

/-- The value of a digit, those of the URL alphabet included. -/
def sextetUrl (c : Char) : Option ℕ :=
  if c = '-' then some 62 else if c = '_' then some 63 else sextet c

/-- The bytes of a row of values. A value over is dropped. -/
def ofSextets : List ℕ → List UInt8
  | x :: y :: z :: w :: rest =>
    UInt8.ofNat (4 * x + y / 16) :: UInt8.ofNat (16 * (y % 16) + z / 4) ::
      UInt8.ofNat (64 * (z % 4) + w) :: ofSextets rest
  | [x, y, z] => [UInt8.ofNat (4 * x + y / 16), UInt8.ofNat (16 * (y % 16) + z / 4)]
  | [x, y] => [UInt8.ofNat (4 * x + y / 16)]
  | _ => []

/-- The digits before the first pad, whatever stands between them. -/
def sextets (text : List Char) : List ℕ := (text.takeWhile (· != '=')).filterMap sextetUrl

def lenient (text : List Char) : List UInt8 := ofSextets (sextets text)

theorem digit_ok : ∀ n < 64, sextetUrl (digit n) = some n ∧ digit n ≠ '=' := by decide

theorem sextets_digit {n : ℕ} (hn : n < 64) (text : List Char) :
    sextets (digit n :: text) = n :: sextets text := by
  obtain ⟨hdigit, hpad⟩ := digit_ok n hn
  unfold sextets
  rw [List.takeWhile_cons_of_pos (by simpa using hpad), List.filterMap_cons_some hdigit]

theorem sextets_pad (text : List Char) : sextets ('=' :: text) = [] := rfl

theorem ofNat_eq_of_toNat {n : ℕ} {b : UInt8} (h : n = b.toNat) : UInt8.ofNat n = b := by
  rw [h, UInt8.ofNat_toNat]

/-- **The reading gives back what was written.** -/
theorem lenient_encode : ∀ bytes : List UInt8, lenient (encode bytes) = bytes
  | [] => rfl
  | [a] => by
    have ha := a.toNat_lt
    unfold lenient encode
    rw [sextets_digit (by omega), sextets_digit (by omega), sextets_pad, ofSextets]
    rw [ofNat_eq_of_toNat (b := a) (by omega)]
  | [a, b] => by
    have ha := a.toNat_lt
    have hb := b.toNat_lt
    unfold lenient encode
    rw [sextets_digit (by omega), sextets_digit (by omega), sextets_digit (by omega), sextets_pad,
      ofSextets]
    rw [ofNat_eq_of_toNat (b := a) (by omega), ofNat_eq_of_toNat (b := b) (by omega)]
  | a :: b :: c :: rest => by
    have ha := a.toNat_lt
    have hb := b.toNat_lt
    have hc := c.toNat_lt
    unfold lenient encode
    rw [sextets_digit (by omega), sextets_digit (by omega), sextets_digit (by omega),
      sextets_digit (by omega), ofSextets]
    rw [ofNat_eq_of_toNat (b := a) (by omega), ofNat_eq_of_toNat (b := b) (by omega),
      ofNat_eq_of_toNat (b := c) (by omega)]
    have ih := lenient_encode rest
    unfold lenient at ih
    rw [ih]

theorem length_ofSextets_le : ∀ values : List ℕ, (ofSextets values).length ≤ values.length
  | [] => Nat.le_refl 0
  | [_] => Nat.zero_le 1
  | [_, _] => by simp [ofSextets]
  | [_, _, _] => by simp [ofSextets]
  | _ :: _ :: _ :: _ :: rest => by
    have ih := length_ofSextets_le rest
    simp only [ofSextets, List.length_cons]
    omega

/-- No more bytes than characters. -/
theorem length_lenient_le (text : List Char) : (lenient text).length ≤ text.length := by
  have hbytes := length_ofSextets_le (sextets text)
  have hdigits : (sextets text).length ≤ (text.takeWhile (· != '=')).length :=
    List.length_filterMap_le ..
  have htaken : (text.takeWhile (· != '=')).length ≤ text.length :=
    (List.takeWhile_sublist _).length_le
  unfold lenient
  omega

/-- Characters that are no digits and no pads are passed over. -/
theorem lenient_skip {junk : List Char} (hjunk : ∀ c ∈ junk, sextetUrl c = none ∧ c ≠ '=')
    (text : List Char) : lenient (junk ++ text) = lenient text := by
  have hsextets : sextets (junk ++ text) = sextets text := by
    unfold sextets
    rw [List.takeWhile_append_of_pos (fun c hc => by simpa using (hjunk c hc).2), List.filterMap_append,
      List.filterMap_eq_nil_iff.mpr (fun c hc => (hjunk c hc).1), List.nil_append]
  unfold lenient
  rw [hsextets]

theorem digit_mem_encode : ∀ {bytes : List UInt8} {c : Char}, c ∈ encode bytes →
    (∃ n < 64, c = digit n) ∨ c = '='
  | [], _, h => by cases h
  | [a], c, h => by
    have ha := a.toNat_lt
    simp only [encode, List.mem_cons, List.not_mem_nil, or_false] at h
    rcases h with rfl | rfl | rfl | rfl
    · exact .inl ⟨_, by omega, rfl⟩
    · exact .inl ⟨_, by omega, rfl⟩
    · exact .inr rfl
    · exact .inr rfl
  | [a, b], c, h => by
    have ha := a.toNat_lt
    have hb := b.toNat_lt
    simp only [encode, List.mem_cons, List.not_mem_nil, or_false] at h
    rcases h with rfl | rfl | rfl | rfl
    · exact .inl ⟨_, by omega, rfl⟩
    · exact .inl ⟨_, by omega, rfl⟩
    · exact .inl ⟨_, by omega, rfl⟩
    · exact .inr rfl
  | a :: b :: d :: rest, c, h => by
    have ha := a.toNat_lt
    have hb := b.toNat_lt
    have hd := d.toNat_lt
    simp only [encode, List.mem_cons] at h
    rcases h with rfl | rfl | rfl | rfl | hrest
    · exact .inl ⟨_, by omega, rfl⟩
    · exact .inl ⟨_, by omega, rfl⟩
    · exact .inl ⟨_, by omega, rfl⟩
    · exact .inl ⟨_, by omega, rfl⟩
    · exact digit_mem_encode hrest

theorem digit_range : ∀ n < 64, 43 ≤ (digit n).toNat ∧ (digit n).toNat ≤ 122 := by decide

/-- What is written is of the characters from `+` to `z`. -/
theorem range_of_mem_encode {bytes : List UInt8} {c : Char} (h : c ∈ encode bytes) :
    43 ≤ c.toNat ∧ c.toNat ≤ 122 := by
  rcases digit_mem_encode h with ⟨n, hn, rfl⟩ | rfl
  · exact digit_range n hn
  · decide

theorem encode_ne_nil {bytes : List UInt8} (h : bytes ≠ []) : encode bytes ≠ [] := by
  intro hnil
  apply h
  have hback := lenient_encode bytes
  rw [hnil] at hback
  exact hback.symm

/-! ### Rows of quads -/

/-- A row of quads of digits, the last of which may end in one or two pads. -/
inductive Quads : List Char → List UInt8 → Prop
  | nil : Quads [] []
  | two {a b : Char} {x y : ℕ} (ha : sextet a = some x) (hb : sextet b = some y) :
      Quads [a, b, '=', '='] [UInt8.ofNat (4 * x + y / 16)]
  | three {a b c : Char} {x y z : ℕ} (ha : sextet a = some x) (hb : sextet b = some y)
      (hc : sextet c = some z) :
      Quads [a, b, c, '='] [UInt8.ofNat (4 * x + y / 16), UInt8.ofNat (16 * (y % 16) + z / 4)]
  | cons {a b c d : Char} {x y z w : ℕ} {rest : List Char} {bytes : List UInt8} (ha : sextet a = some x)
      (hb : sextet b = some y) (hc : sextet c = some z) (hd : sextet d = some w) (hrest : Quads rest bytes) :
      Quads (a :: b :: c :: d :: rest) (UInt8.ofNat (4 * x + y / 16) :: UInt8.ofNat (16 * (y % 16) + z / 4) ::
        UInt8.ofNat (64 * (z % 4) + w) :: bytes)

theorem dropPad_cons {c : Char} {rest : List Char} (h : 2 ≤ rest.length) :
    dropPad (c :: rest) = c :: dropPad rest := by
  rw [dropPad]
  · rintro - rfl
    simp at h
  · rintro - rfl
    simp at h

theorem dropPad_one {c : Char} (h : c ≠ '=') : dropPad [c] = [c] := by
  rw [dropPad]
  · rfl
  · intro hc
    exact absurd hc h
  · intro hc
    exact absurd hc h

theorem dropPad_two {c d : Char} (h : d ≠ '=') : dropPad [c, d] = [c, d] := by
  rw [dropPad, dropPad_one h]
  · rintro - hd
    simp at hd
  · rintro - hd
    exact h (List.head_eq_of_cons_eq hd)

theorem dropPad_pad {c : Char} (h : c ≠ '=') : dropPad [c, '='] = [c] := by
  rw [dropPad]
  · rfl
  · intro hc
    exact absurd hc h
  · intro hc
    exact absurd hc h

theorem quads_of_unpadded : ∀ {text : List Char} {bytes : List UInt8}, text.length % 4 = 0 →
    unpadded (dropPad text) = some bytes → Quads text bytes
  | [], bytes, _, h => by
    cases h
    exact .nil
  | [_], _, hlen, _ => by simp at hlen
  | [_, _], _, hlen, _ => by simp at hlen
  | [_, _, _], _, hlen, _ => by simp at hlen
  | [a, b, c, d], bytes, _, h => by
    rw [dropPad_cons (by simp), dropPad_cons (by simp)] at h
    by_cases hd : d = '='
    · subst hd
      by_cases hc : c = '='
      · subst hc
        simp only [dropPad, unpadded, Option.bind_eq_bind, Option.bind_eq_some_iff] at h
        obtain ⟨x, hx, y, hy, h⟩ := h
        cases h
        exact .two hx hy
      · rw [dropPad_pad hc] at h
        simp only [unpadded, Option.bind_eq_bind, Option.bind_eq_some_iff] at h
        obtain ⟨x, hx, y, hy, z, hz, h⟩ := h
        cases h
        exact .three hx hy hz
    · rw [dropPad_two hd] at h
      simp only [unpadded, Option.bind_eq_bind, Option.bind_eq_some_iff] at h
      obtain ⟨x, hx, y, hy, z, hz, w, hw, rest, hrest, h⟩ := h
      cases hrest
      cases h
      exact .cons hx hy hz hw .nil
  | a :: b :: c :: d :: e :: rest, bytes, hlen, h => by
    have hlen' : (e :: rest).length % 4 = 0 := by
      simp only [List.length_cons] at hlen ⊢
      omega
    have hlong : 3 ≤ rest.length := by
      simp only [List.length_cons] at hlen'
      omega
    rw [dropPad_cons (by simp), dropPad_cons (by simp), dropPad_cons (by simp only [List.length_cons]; omega),
      dropPad_cons (by simp only [List.length_cons]; omega)] at h
    simp only [unpadded, Option.bind_eq_bind, Option.bind_eq_some_iff] at h
    obtain ⟨x, hx, y, hy, z, hz, w, hw, rest', hrest, h⟩ := h
    cases h
    exact .cons hx hy hz hw (quads_of_unpadded hlen' hrest)

theorem sextet_ne_pad {c : Char} {n : ℕ} (h : sextet c = some n) : c ≠ '=' := by
  rintro rfl
  cases h

theorem sextet_lt {c : Char} {n : ℕ} (h : sextet c = some n) : c.toNat < 128 := by
  have hplus : '+'.toNat = 43 := rfl
  have hslash : '/'.toNat = 47 := rfl
  unfold sextet at h
  split at h
  · omega
  · split at h
    · omega
    · split at h
      · omega
      · split at h
        · subst c
          omega
        · split at h
          · subst c
            omega
          · cases h

theorem Quads.length {text : List Char} {bytes : List UInt8} (h : Quads text bytes) : text.length % 4 = 0 := by
  induction h with
  | nil => rfl
  | two => simp
  | three => simp
  | cons _ _ _ _ _ ih =>
    simp only [List.length_cons]
    omega

theorem Quads.unpadded {text : List Char} {bytes : List UInt8} (h : Quads text bytes) :
    unpadded (dropPad text) = some bytes := by
  induction h with
  | nil => rfl
  | two ha hb =>
    rw [dropPad_cons (by simp), dropPad_cons (by simp)]
    simp [dropPad, Base64.unpadded, ha, hb]
  | three ha hb hc =>
    rw [dropPad_cons (by simp), dropPad_cons (by simp), dropPad_pad (sextet_ne_pad hc)]
    simp [Base64.unpadded, ha, hb, hc]
  | @cons a b c d x y z w rest bytes ha hb hc hd hrest ih =>
    have hquad : dropPad (a :: b :: c :: d :: rest) = a :: b :: c :: d :: dropPad rest := by
      rw [dropPad_cons (by simp), dropPad_cons (by simp)]
      by_cases hnil : rest = []
      · rw [hnil, dropPad_two (sextet_ne_pad hd)]
        rfl
      · have hlong : 4 ≤ rest.length := by
          have := hrest.length
          have := List.length_pos_of_ne_nil hnil
          omega
        rw [dropPad_cons (by simp only [List.length_cons]; omega), dropPad_cons (by omega)]
    rw [hquad]
    simp [Base64.unpadded, ha, hb, hc, hd, ih]

/-- A text decodes exactly when it is a row of quads. -/
theorem decode_iff_quads {text : List Char} {bytes : List UInt8} :
    decode text = some bytes ↔ Quads text bytes := by
  constructor
  · intro h
    obtain ⟨hlen, hdigits⟩ := decode_some h
    exact quads_of_unpadded hlen hdigits
  · intro h
    rw [decode, if_pos h.length, h.unpadded]

/-- A row of quads is its digits, and the pads they need to be whole quads. -/
theorem Quads.eq_append {text : List Char} {bytes : List UInt8} (h : Quads text bytes) :
    ∃ digits, (∀ c ∈ digits, c ≠ '=') ∧
      text = digits ++ List.replicate ((4 - digits.length % 4) % 4) '=' := by
  induction h with
  | nil => exact ⟨[], by simp, rfl⟩
  | @two a b _ _ ha hb =>
    exact ⟨[a, b], by simp [sextet_ne_pad ha, sextet_ne_pad hb], rfl⟩
  | @three a b c _ _ _ ha hb hc =>
    exact ⟨[a, b, c], by simp [sextet_ne_pad ha, sextet_ne_pad hb, sextet_ne_pad hc], rfl⟩
  | @cons a b c d _ _ _ _ _ _ ha hb hc hd _ ih =>
    obtain ⟨digits, hdigits, rfl⟩ := ih
    refine ⟨a :: b :: c :: d :: digits, ?_, ?_⟩
    · simp only [List.forall_mem_cons]
      exact ⟨sextet_ne_pad ha, sextet_ne_pad hb, sextet_ne_pad hc, sextet_ne_pad hd, hdigits⟩
    · have hlen : (a :: b :: c :: d :: digits).length % 4 = digits.length % 4 := by
        simp only [List.length_cons]
        omega
      rw [hlen]
      rfl

theorem sextetUrl_of_sextet {c : Char} {n : ℕ} (h : sextet c = some n) : sextetUrl c = some n := by
  have hminus : c ≠ '-' := by
    rintro rfl
    cases h
  have hunder : c ≠ '_' := by
    rintro rfl
    cases h
  rw [sextetUrl, if_neg hminus, if_neg hunder, h]

theorem sextets_cons {c : Char} {n : ℕ} (h : sextet c = some n) (text : List Char) :
    sextets (c :: text) = n :: sextets text := by
  unfold sextets
  rw [List.takeWhile_cons_of_pos (by simpa using sextet_ne_pad h),
    List.filterMap_cons_some (sextetUrl_of_sextet h)]

/-- The reading that never fails agrees with the strict one. -/
theorem lenient_of_decode {text : List Char} {bytes : List UInt8} (h : decode text = some bytes) :
    lenient text = bytes := by
  have hquads := decode_iff_quads.mp h
  clear h
  unfold lenient
  induction hquads with
  | nil => rfl
  | two ha hb => rw [sextets_cons ha, sextets_cons hb, sextets_pad, ofSextets]
  | three ha hb hc => rw [sextets_cons ha, sextets_cons hb, sextets_cons hc, sextets_pad, ofSextets]
  | cons ha hb hc hd hrest ih =>
    rw [sextets_cons ha, sextets_cons hb, sextets_cons hc, sextets_cons hd, ofSextets, ih]

theorem sextet_digit : ∀ n < 64, sextet (digit n) = some n := by decide

/-- What was written is a row of quads. -/
theorem quads_encode : ∀ bytes : List UInt8, Quads (encode bytes) bytes
  | [] => .nil
  | [a] => by
    have ha := a.toNat_lt
    have h := Quads.two (sextet_digit (a.toNat / 4) (by omega)) (sextet_digit (16 * (a.toNat % 4)) (by omega))
    rwa [ofNat_eq_of_toNat (b := a) (by omega)] at h
  | [a, b] => by
    have ha := a.toNat_lt
    have hb := b.toNat_lt
    have h := Quads.three (sextet_digit (a.toNat / 4) (by omega))
      (sextet_digit (16 * (a.toNat % 4) + b.toNat / 16) (by omega))
      (sextet_digit (4 * (b.toNat % 16)) (by omega))
    rwa [ofNat_eq_of_toNat (b := a) (by omega), ofNat_eq_of_toNat (b := b) (by omega)] at h
  | a :: b :: c :: rest => by
    have ha := a.toNat_lt
    have hb := b.toNat_lt
    have hc := c.toNat_lt
    have h := Quads.cons (sextet_digit (a.toNat / 4) (by omega))
      (sextet_digit (16 * (a.toNat % 4) + b.toNat / 16) (by omega))
      (sextet_digit (4 * (b.toNat % 16) + c.toNat / 64) (by omega))
      (sextet_digit (c.toNat % 64) (by omega)) (quads_encode rest)
    rwa [ofNat_eq_of_toNat (b := a) (by omega), ofNat_eq_of_toNat (b := b) (by omega),
      ofNat_eq_of_toNat (b := c) (by omega)] at h

/-- **The strict reading gives back what was written.** -/
theorem decode_encode (bytes : List UInt8) : decode (encode bytes) = some bytes :=
  decode_iff_quads.mpr (quads_encode bytes)

end Base64
