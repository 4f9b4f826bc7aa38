/-
# Hexadecimal text

`hexEncode` is `hex.EncodeToString`, `bytes.hex` and `bytesToHex`.
`hexDecode` is Go's `hex.DecodeString` and TypeScript's `hexToBytes`;
`fromHex` is Python's `bytes.fromhex`, which also skips ASCII blanks in front
of a byte. The SDKs compare re-encoded bytes with a text either by decoding
the text or by lower-casing it; `hexDecode_of_lower` says the second implies
the first.

Key definitions: `hexEncode`, `hexDecode`, `fromHex`, `lower`.
Key theorems: `hexDecode_hexEncode`, `hexDecode_of_lower`, `fromHex_of_hexDecode`.
-/
import AplaneSdk.Wire

namespace AplaneSdk

def hexDigit (n : ℕ) : Char :=
  if n < 10 then Char.ofNat (48 + n) else Char.ofNat (87 + n)

/-- The value of a hexadecimal digit of either case. -/
def hexValue (c : Char) : Option ℕ :=
  if 48 ≤ c.toNat ∧ c.toNat ≤ 57 then some (c.toNat - 48)
  else if 97 ≤ c.toNat ∧ c.toNat ≤ 102 then some (c.toNat - 87)
  else if 65 ≤ c.toNat ∧ c.toNat ≤ 70 then some (c.toNat - 55)
  else none

def hexByte (b : UInt8) : List Char := [hexDigit (b.toNat / 16), hexDigit (b.toNat % 16)]

def hexChars (bs : Bytes) : List Char := bs.flatMap hexByte

/-- Lower-case hexadecimal, two digits a byte. -/
def hexEncode (bs : Bytes) : String := String.ofList (hexChars bs)

def unhexByte (c d : Char) : Option UInt8 := do
  let high ← hexValue c
  let low ← hexValue d
  pure (UInt8.ofNat (16 * high + low))

def unhexChars : List Char → Option Bytes
  | [] => some []
  | [_] => none
  | c :: d :: rest => do
    let b ← unhexByte c d
    let bs ← unhexChars rest
    pure (b :: bs)

/-- `hex.DecodeString` and `hexToBytes`: an even number of digits, nothing else. -/
def hexDecode (s : String) : Option Bytes := unhexChars s.toList

/-- `Py_ISSPACE`. -/
def isSpace (c : Char) : Bool := c.toNat == 32 || (9 ≤ c.toNat && c.toNat ≤ 13)

def fromHexChars : List Char → Option Bytes
  | [] => some []
  | [c] => if isSpace c then some [] else none
  | c :: d :: rest =>
    if isSpace c then fromHexChars (d :: rest)
    else do
      let b ← unhexByte c d
      let bs ← fromHexChars rest
      pure (b :: bs)

/-- `bytes.fromhex`: blanks in front of a byte are skipped. -/
def fromHex (s : String) : Option Bytes := fromHexChars s.toList

/-- `str.lower` and `toLowerCase` on a text that is compared with hexadecimal:
no character outside ASCII has a hexadecimal digit as its lower case. -/
def lower (s : String) : String := s.map Char.toLower

/-! ### Round trips -/

theorem hexValue_of_toLower_ascii : ∀ (m : Fin 128) (n : Fin 16),
    (Char.ofNat m).toLower = hexDigit n → hexValue (Char.ofNat m) = some n.val := by decide

theorem hexDigit_toNat_lt : ∀ n : Fin 16, (hexDigit n).toNat < 128 := by decide

theorem toLower_of_not_ascii {c : Char} (h : 128 ≤ c.toNat) : c.toLower = c := by
  have : ¬ (65 ≤ c.toNat ∧ c.toNat ≤ 90) := by omega
  delta Char.toLower
  rw [dif_neg]
  simpa [UInt32.le_iff_toNat_le, ← Char.toNat_val] using this

theorem hexValue_of_toLower {c : Char} {n : ℕ} (h : n < 16) (hc : c.toLower = hexDigit n) :
    hexValue c = some n := by
  by_cases ha : c.toNat < 128
  · have := hexValue_of_toLower_ascii ⟨c.toNat, ha⟩ ⟨n, h⟩
    simpa [hc] using this
  · -- outside ASCII a character is its own lower case, and no digit
    rw [toLower_of_not_ascii (by omega)] at hc
    have := hexDigit_toNat_lt ⟨n, h⟩
    rw [← hc] at this
    omega

theorem unhexByte_of_lower {c d : Char} {b : UInt8} (hc : c.toLower = hexDigit (b.toNat / 16))
    (hd : d.toLower = hexDigit (b.toNat % 16)) : unhexByte c d = some b := by
  have hb := b.toNat_lt
  rw [unhexByte, hexValue_of_toLower (by omega) hc, hexValue_of_toLower (by omega) hd]
  change some (UInt8.ofNat (16 * (b.toNat / 16) + b.toNat % 16)) = some b
  rw [Nat.div_add_mod, UInt8.ofNat_toNat]

theorem unhexChars_of_lower : ∀ {cs : List Char} {bs : Bytes},
    cs.map Char.toLower = hexChars bs → unhexChars cs = some bs
  | [], [], _ => rfl
  | [], b :: bs, h => by simp [hexChars, hexByte] at h
  | _ :: cs, [], h => by simp [hexChars] at h
  | [c], b :: bs, h => by simp [hexChars, hexByte] at h
  | c :: d :: cs, b :: bs, h => by
    simp only [hexChars, hexByte, List.flatMap_cons, List.map_cons, List.cons_append,
      List.nil_append, List.cons.injEq] at h
    rw [unhexChars, unhexByte_of_lower h.1 h.2.1, unhexChars_of_lower h.2.2]
    rfl

/-- A text that lower-cases to the encoding of `bs` denotes `bs`. -/
theorem hexDecode_of_lower {s : String} {bs : Bytes} (h : lower s = hexEncode bs) :
    hexDecode s = some bs := by
  apply unhexChars_of_lower
  have := congrArg String.toList h
  rwa [lower, hexEncode, String.toList_map, String.toList_ofList] at this

theorem hexDigit_lower : ∀ n : Fin 16, (hexDigit n).toLower = hexDigit n := by decide

theorem hexChars_lower (bs : Bytes) : (hexChars bs).map Char.toLower = hexChars bs := by
  induction bs with
  | nil => rfl
  | cons b bs ih =>
    have hb := b.toNat_lt
    simp only [hexChars, List.flatMap_cons, hexByte, List.cons_append, List.nil_append,
      List.map_cons, List.cons.injEq]
    exact ⟨hexDigit_lower ⟨b.toNat / 16, by omega⟩, hexDigit_lower ⟨b.toNat % 16, by omega⟩, ih⟩

/-- The encoding has no upper-case digit. -/
theorem lower_hexEncode (bs : Bytes) : lower (hexEncode bs) = hexEncode bs := by
  rw [← String.toList_inj, lower, String.toList_map, hexEncode, String.toList_ofList, hexChars_lower]

/-- Decoding inverts encoding. -/
@[simp] theorem hexDecode_hexEncode (bs : Bytes) : hexDecode (hexEncode bs) = some bs :=
  hexDecode_of_lower (lower_hexEncode bs)

theorem hexEncode_injective : Function.Injective hexEncode := by
  intro a b h
  simpa using congrArg hexDecode h

theorem hexEncode_inj {a b : Bytes} : hexEncode a = hexEncode b ↔ a = b :=
  hexEncode_injective.eq_iff

theorem hexEncode_eq_empty {bytes : Bytes} : hexEncode bytes = "" ↔ bytes = [] := by
  have hnil : hexEncode [] = "" := rfl
  rw [← hnil, hexEncode_inj]

theorem isSpace_of_hexValue {c : Char} {n : ℕ} (h : hexValue c = some n) : isSpace c = false := by
  simp only [hexValue] at h
  simp only [isSpace, Bool.or_eq_false_iff, beq_eq_false_iff_ne, Bool.and_eq_false_iff,
    decide_eq_false_iff_not]
  split at h
  · omega
  · split at h
    · omega
    · split at h
      · omega
      · cases h

theorem fromHexChars_of_unhexChars : ∀ {cs : List Char} {bs : Bytes},
    unhexChars cs = some bs → fromHexChars cs = some bs
  | [], bs, h => h
  | [c], bs, h => by simp [unhexChars] at h
  | c :: d :: rest, bs, h => by
    simp only [unhexChars, Option.bind_eq_bind, Option.bind_eq_some_iff, Option.pure_def] at h
    obtain ⟨b, hb, bs', hrest, h⟩ := h
    cases h
    have hc : isSpace c = false := by
      simp only [unhexByte, Option.bind_eq_bind, Option.bind_eq_some_iff] at hb
      obtain ⟨high, hh, -⟩ := hb
      exact isSpace_of_hexValue hh
    simp [fromHexChars, hc, hb, fromHexChars_of_unhexChars hrest]

/-- Python reads every text the others read, and reads it the same. -/
theorem fromHex_of_hexDecode {s : String} {bs : Bytes} (h : hexDecode s = some bs) :
    fromHex s = some bs := fromHexChars_of_unhexChars h

end AplaneSdk
