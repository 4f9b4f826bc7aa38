/-
# Bytes as text in TypeScript

`encoding.ts` writes hexadecimal byte by byte and reads it back with `parseInt`,
copies the signed transactions of a group into one array at running offsets,
and encodes the array with Node's `Buffer` or, where there is none, with
`btoa`, which it feeds blocks of 32768 bytes. The loops are modelled as they
run; what they compute is the hexadecimal and the base64 of `AplaneSdk.Hex` and
`Base64`.

Key definitions: `TypeScript.bytesToHex`, `TypeScript.hexToBytes`,
`TypeScript.setAll`, `TypeScript.binaryString`, `TypeScript.bytesToBase64`,
`TypeScript.concatenateSignedTxns`.
Key theorems: `hexToBytes_ok`, `bytesToHex_eq`, `setAll_flatten`,
`binaryString_eq`, `bytesToBase64_eq`, `concatenateSignedTxns_exact`.
-/
import Mathlib.Algebra.BigOperators.Group.List.Basic
import AplaneSdk.Lib.Base64
import AplaneSdk.Requests

namespace AplaneSdk

open Checks

namespace TypeScript

/-! ### Hexadecimal -/

/-- `toString(16)`. -/
def toString16 (n : ℕ) : List Char := if n < 16 then [hexDigit n] else [hexDigit (n / 16), hexDigit (n % 16)]

/-- `padStart(n, "0")`. -/
def padStart (n : ℕ) (text : List Char) : List Char := List.replicate (n - text.length) '0' ++ text

def bytesToHex (bytes : Bytes) : String :=
  String.ofList ((bytes.map fun b => padStart 2 (toString16 b.toNat)).flatten)

/-- A character of the class `[0-9a-fA-F]`. -/
def isHexDigit (c : Char) : Bool :=
  (48 ≤ c.toNat && c.toNat ≤ 57) || (97 ≤ c.toNat && c.toNat ≤ 102) || (65 ≤ c.toNat && c.toNat ≤ 70)

/-- `parseInt(text, 16)`: the digits in front, or `NaN`. -/
def parseInt16 (text : List Char) : Option ℕ :=
  match text.takeWhile isHexDigit with
  | [] => none
  | digits => some (digits.foldl (fun n c => 16 * n + (hexValue c).getD 0) 0)

/-- What an entry of a `Uint8Array` keeps of a number; `NaN` is kept as 0. -/
def toUint8 (n : Option ℕ) : UInt8 := UInt8.ofNat (n.getD 0)

/-- The loop of `hexToBytes`, two digits a turn. -/
def parsePairs : List Char → Bytes
  | [] => []
  | [c] => [toUint8 (parseInt16 [c])]
  | c :: d :: rest => toUint8 (parseInt16 [c, d]) :: parsePairs rest

def hexToBytes (hex : String) : Except SdkError Bytes := do
  failIf (utf16Length hex % 2 ≠ 0) (err "hex string must have even length")
  failIf (hex.toList.all isHexDigit = false) (err "invalid hex string")
  pure (parsePairs hex.toList)

/-! ### One array -/

/-- `combined.set(bytes, offset)`, which throws where the bytes do not fit. -/
def setAt (combined bytes : Bytes) (offset : ℕ) : Except SdkError Bytes := do
  failIf (combined.length < offset + bytes.length) { kind := .type, text := "offset is out of bounds" }
  pure (combined.take offset ++ bytes ++ combined.drop (offset + bytes.length))

/-- The loop that copies the arrays, each behind the ones before it. -/
def setAll (combined : Bytes) (offset : ℕ) : List Bytes → Except SdkError Bytes
  | [] => .ok combined
  | bytes :: rest => do
    let combined ← setAt combined bytes offset
    setAll combined (offset + bytes.length) rest

/-! ### Base64 -/

def chunkSize : ℕ := 0x8000

/-- `String.fromCharCode`. -/
def fromCharCode (bytes : Bytes) : List Char := bytes.map fun b => Char.ofNat b.toNat

/-- The loop over the blocks from `i` on. -/
def binaryString (size : ℕ) (bytes : Bytes) (i : ℕ) : List Char :=
  if 0 < size ∧ i < bytes.length then
    fromCharCode ((bytes.drop i).take size) ++ binaryString size bytes (i + size)
  else []
termination_by bytes.length - i

/-- `btoa`, which throws at a character beyond 255. -/
def btoa (binary : List Char) : Except SdkError String := do
  failIf (binary.any (255 < ·.toNat) = true) { kind := .type, text := "InvalidCharacterError" }
  pure (String.ofList (Base64.encode (binary.map fun c => UInt8.ofNat c.toNat)))

/-- `bytesToBase64`, where there is a `Buffer` and where there is none. -/
def bytesToBase64 (hasBuffer : Bool) (bytes : Bytes) : Except SdkError String :=
  if hasBuffer then .ok (String.ofList (Base64.encode bytes)) else btoa (binaryString chunkSize bytes 0)

def concatenateSignedTxns (hasBuffer : Bool) (signedHexes : List String) : Except SdkError String := do
  let byteArrays ← mapEach (fun _ => hexToBytes) 0 signedHexes
  let totalLength := (byteArrays.map List.length).sum
  let combined ← setAll (List.replicate totalLength 0) 0 byteArrays
  bytesToBase64 hasBuffer combined

end TypeScript

/-! ### Hexadecimal is hexadecimal -/

open TypeScript

theorem isHexDigit_iff {c : Char} : isHexDigit c = true ↔ ∃ n, hexValue c = some n := by
  unfold isHexDigit hexValue
  simp only [Bool.or_eq_true, Bool.and_eq_true, decide_eq_true_eq]
  constructor
  · intro h
    by_cases h1 : 48 ≤ c.toNat ∧ c.toNat ≤ 57
    · exact ⟨c.toNat - 48, by rw [if_pos h1]⟩
    · by_cases h2 : 97 ≤ c.toNat ∧ c.toNat ≤ 102
      · exact ⟨c.toNat - 87, by rw [if_neg h1, if_pos h2]⟩
      · have h3 : 65 ≤ c.toNat ∧ c.toNat ≤ 70 := by tauto
        exact ⟨c.toNat - 55, by rw [if_neg h1, if_neg h2, if_pos h3]⟩
  · rintro ⟨n, hn⟩
    split at hn
    · exact .inl (.inl ‹_›)
    · split at hn
      · exact .inl (.inr ‹_›)
      · split at hn
        · exact .inr ‹_›
        · cases hn

theorem parseInt16_pair {c d : Char} {high low : ℕ} (hc : hexValue c = some high) (hd : hexValue d = some low) :
    parseInt16 [c, d] = some (16 * high + low) := by
  have hcd : isHexDigit c = true := isHexDigit_iff.mpr ⟨high, hc⟩
  have hdd : isHexDigit d = true := isHexDigit_iff.mpr ⟨low, hd⟩
  unfold parseInt16
  rw [List.takeWhile_cons_of_pos hcd, List.takeWhile_cons_of_pos hdd, List.takeWhile_nil]
  simp only [List.foldl_cons, List.foldl_nil, hc, hd, Option.getD_some, Nat.mul_zero, Nat.zero_add]

/-- The loop over pairs of digits reads what they denote. -/
theorem parsePairs_eq : ∀ {cs : List Char}, cs.all isHexDigit = true → cs.length % 2 = 0 →
    unhexChars cs = some (parsePairs cs)
  | [], _, _ => rfl
  | [_], _, hlen => by simp at hlen
  | c :: d :: rest, hall, hlen => by
    simp only [List.all_cons, Bool.and_eq_true] at hall
    obtain ⟨hc, hd, hrest⟩ := hall
    obtain ⟨high, hhigh⟩ := isHexDigit_iff.mp hc
    obtain ⟨low, hlow⟩ := isHexDigit_iff.mp hd
    have hlen' : rest.length % 2 = 0 := by
      rw [List.length_cons, List.length_cons] at hlen
      omega
    have ih := parsePairs_eq hrest hlen'
    unfold unhexChars parsePairs
    rw [ih, parseInt16_pair hhigh hlow, unhexByte, hhigh, hlow]
    rfl

theorem utf16Length_of_hex {hex : String} (h : hex.toList.all isHexDigit = true) :
    utf16Length hex = hex.toList.length := by
  rw [utf16Length, sum_map_eq_length]
  intro c hc
  have hdigit := List.all_eq_true.mp h c hc
  unfold isHexDigit at hdigit
  simp only [Bool.or_eq_true, Bool.and_eq_true, decide_eq_true_eq] at hdigit
  have hlt : c.toNat < 0x10000 := by omega
  rw [if_pos hlt]

theorem digits_of_unhexChars : ∀ {cs : List Char} {bs : Bytes}, unhexChars cs = some bs →
    cs.length % 2 = 0 ∧ cs.all isHexDigit = true
  | [], _, _ => ⟨rfl, rfl⟩
  | [_], _, h => by cases h
  | c :: d :: rest, bs, h => by
    simp only [unhexChars, unhexByte, Option.bind_eq_bind, Option.bind_eq_some_iff] at h
    obtain ⟨b, ⟨high, hhigh, low, hlow, -⟩, bs', hrest, -⟩ := h
    obtain ⟨hlen, hall⟩ := digits_of_unhexChars hrest
    have hc : isHexDigit c = true := isHexDigit_iff.mpr ⟨high, hhigh⟩
    have hd : isHexDigit d = true := isHexDigit_iff.mpr ⟨low, hlow⟩
    refine ⟨?_, ?_⟩
    · rw [List.length_cons, List.length_cons]
      omega
    · rw [List.all_cons, List.all_cons, hc, hd, hall]
      rfl

/-- `hexToBytes` reads hexadecimal, and nothing else. -/
theorem hexToBytes_ok {hex : String} {bs : Bytes} : hexToBytes hex = .ok bs ↔ hexDecode hex = some bs := by
  unfold hexToBytes hexDecode
  simp only [seq_eq_ok, failIf_ok, pure_eq_ok, ne_eq, not_not, Bool.not_eq_false]
  constructor
  · rintro ⟨hlen, hall, rfl⟩
    rw [utf16Length_of_hex hall] at hlen
    exact parsePairs_eq hall hlen
  · intro h
    obtain ⟨hlen, hall⟩ := digits_of_unhexChars h
    rw [utf16Length_of_hex hall]
    refine ⟨hlen, hall, ?_⟩
    rw [parsePairs_eq hall hlen] at h
    exact Option.some.inj h

theorem padStart_toString16 {n : ℕ} (h : n < 256) :
    padStart 2 (toString16 n) = [hexDigit (n / 16), hexDigit (n % 16)] := by
  unfold toString16
  by_cases hsmall : n < 16
  · have hzero : n / 16 = 0 := by omega
    have hself : n % 16 = n := by omega
    rw [if_pos hsmall, hzero, hself]
    rfl
  · rw [if_neg hsmall]
    rfl

theorem bytesToHex_eq (bytes : Bytes) : bytesToHex bytes = hexEncode bytes := by
  unfold bytesToHex hexEncode hexChars
  rw [List.flatMap_def]
  congr 2
  refine List.map_congr_left fun b _ => ?_
  exact padStart_toString16 b.toNat_lt

/-! ### The copies stand behind each other -/

theorem setAt_done {done bytes : Bytes} {n : ℕ} :
    setAt (done ++ List.replicate (bytes.length + n) 0) bytes done.length =
      .ok ((done ++ bytes) ++ List.replicate n 0) := by
  unfold setAt
  have hfits : ¬ (done ++ List.replicate (bytes.length + n) (0 : UInt8)).length < done.length + bytes.length := by
    rw [List.length_append, List.length_replicate]
    omega
  have hdrop : (done ++ List.replicate (bytes.length + n) (0 : UInt8)).drop (done.length + bytes.length) =
      List.replicate n 0 := by
    rw [List.drop_append, List.drop_eq_nil_of_le (by omega), List.nil_append, List.drop_replicate]
    congr 1
    omega
  rw [failIf, if_neg hfits, List.take_left, hdrop]
  rfl

/-- What is copied so far stays, and the rest of the array is filled in order. -/
theorem setAll_flatten : ∀ (segments : List Bytes) (done : Bytes),
    setAll (done ++ List.replicate (segments.map List.length).sum 0) done.length segments =
      .ok (done ++ segments.flatten)
  | [], done => by simp [setAll]
  | bytes :: rest, done => by
    have ih := setAll_flatten rest (done ++ bytes)
    rw [List.length_append] at ih
    rw [List.map_cons, List.sum_cons]
    unfold setAll
    rw [setAt_done]
    show setAll _ (done.length + bytes.length) rest = _
    rw [ih, List.flatten_cons, List.append_assoc]

/-! ### The blocks make up the bytes -/

theorem fromCharCode_append (a b : Bytes) : fromCharCode (a ++ b) = fromCharCode a ++ fromCharCode b :=
  List.map_append

/-- The block loop is the whole string, wherever the blocks end. -/
theorem binaryString_eq {size : ℕ} (hsize : 0 < size) (bytes : Bytes) (i : ℕ) :
    binaryString size bytes i = fromCharCode (bytes.drop i) := by
  fun_induction binaryString size bytes i with
  | case1 i h ih =>
    rw [ih, ← fromCharCode_append, ← List.drop_drop, List.take_append_drop]
  | case2 i h =>
    have hend : bytes.length ≤ i := by
      by_contra hlt
      exact h ⟨hsize, by omega⟩
    rw [List.drop_eq_nil_of_le hend]
    rfl

theorem toNat_ofNat_byte (b : UInt8) : (Char.ofNat b.toNat).toNat = b.toNat := by
  have hlt := b.toNat_lt
  have hvalid : b.toNat.isValidChar := by
    left
    omega
  rw [Char.ofNat, dif_pos hvalid]
  rfl

theorem btoa_fromCharCode (bytes : Bytes) : btoa (fromCharCode bytes) = .ok (String.ofList (Base64.encode bytes)) := by
  have hlow : ¬ (fromCharCode bytes).any (255 < ·.toNat) = true := by
    rw [List.any_eq_true]
    rintro ⟨c, hc, hbig⟩
    obtain ⟨b, -, rfl⟩ := List.mem_map.mp hc
    rw [toNat_ofNat_byte, decide_eq_true_eq] at hbig
    have hlt := b.toNat_lt
    omega
  have hback : (fromCharCode bytes).map (fun c => UInt8.ofNat c.toNat) = bytes := by
    rw [fromCharCode, List.map_map]
    refine List.map_id'' (fun b => ?_) bytes
    show UInt8.ofNat (Char.ofNat b.toNat).toNat = b
    rw [toNat_ofNat_byte, UInt8.ofNat_toNat]
  unfold btoa
  rw [failIf, if_neg hlow, hback]
  rfl

/-- Both branches write standard base64. -/
theorem bytesToBase64_eq (hasBuffer : Bool) (bytes : Bytes) :
    bytesToBase64 hasBuffer bytes = .ok (String.ofList (Base64.encode bytes)) := by
  unfold bytesToBase64
  cases hasBuffer with
  | true => rfl
  | false =>
    rw [binaryString_eq (by decide), List.drop_zero, btoa_fromCharCode]
    rfl

/-! ### Main result -/

/-- A text of hexadecimal digits, an even number of them. -/
def IsHex (hex : String) : Prop := utf16Length hex % 2 = 0 ∧ ∀ c ∈ hex.toList, isHexDigit c = true

/-- The texts with the bytes they denote. -/
def Denote (hexes : List String) (segments : List Bytes) : Prop :=
  List.Forall₂ (fun hex bytes => hexDecode hex = some bytes) hexes segments

theorem isHex_iff {hex : String} : IsHex hex ↔ ∃ bytes, hexDecode hex = some bytes := by
  constructor
  · rintro ⟨hlen, hall⟩
    have hall' := List.all_eq_true.mpr hall
    rw [utf16Length_of_hex hall'] at hlen
    exact ⟨_, parsePairs_eq hall' hlen⟩
  · rintro ⟨bytes, h⟩
    obtain ⟨hlen, hall⟩ := digits_of_unhexChars h
    exact ⟨(utf16Length_of_hex hall).symm ▸ hlen, List.all_eq_true.mp hall⟩

theorem concatenateSignedTxns_ok {hasBuffer : Bool} {hexes : List String} {out : String} :
    concatenateSignedTxns hasBuffer hexes = .ok out ↔
      ∃ segments, Denote hexes segments ∧ out = String.ofList (Base64.encode segments.flatten) := by
  unfold concatenateSignedTxns
  simp only [bind_eq_ok]
  constructor
  · rintro ⟨segments, hsegments, combined, hcombined, hout⟩
    have hcopied := setAll_flatten segments []
    rw [List.nil_append, List.nil_append] at hcopied
    cases hcopied.symm.trans hcombined
    rw [bytesToBase64_eq] at hout
    refine ⟨segments, ?_, (Except.ok.inj hout).symm⟩
    exact (mapEach_forall₂.mp hsegments).imp fun _ _ => hexToBytes_ok.mp
  · rintro ⟨segments, hdenote, rfl⟩
    refine ⟨segments, mapEach_forall₂.mpr (hdenote.imp fun _ _ => hexToBytes_ok.mpr), segments.flatten, ?_, ?_⟩
    · exact setAll_flatten segments []
    · exact bytesToBase64_eq hasBuffer _

theorem exists_denote {hexes : List String} : (∃ segments, Denote hexes segments) ↔ ∀ hex ∈ hexes, IsHex hex := by
  simp only [isHex_iff]
  exact exists_forall₂

/-- **A group is submitted as the base64 of its bytes.** `concatenateSignedTxns`
succeeds on the lists of hexadecimal texts and no others, with the base64 of
what they denote one behind the other, and in both branches the same; and what
`bytesToHex` writes, `hexToBytes` reads. -/
theorem concatenateSignedTxns_exact (hexes : List String) :
    (∀ hasBuffer, (∃ out, concatenateSignedTxns hasBuffer hexes = .ok out) ↔ ∀ hex ∈ hexes, IsHex hex) ∧
      (∀ hasBuffer out, concatenateSignedTxns hasBuffer hexes = .ok out →
        ∃ segments, Denote hexes segments ∧ out = String.ofList (Base64.encode segments.flatten)) ∧
      concatenateSignedTxns true hexes = concatenateSignedTxns false hexes ∧
      (∀ bytes, bytesToBase64 true bytes = bytesToBase64 false bytes) ∧
      ∀ bytes, hexToBytes (bytesToHex bytes) = .ok bytes := by
  refine ⟨fun hasBuffer => ?_, fun hasBuffer out => concatenateSignedTxns_ok.mp, ?_, fun bytes => ?_, fun bytes => ?_⟩
  · rw [← exists_denote]
    constructor
    · rintro ⟨out, hout⟩
      obtain ⟨segments, hdenote, -⟩ := concatenateSignedTxns_ok.mp hout
      exact ⟨segments, hdenote⟩
    · rintro ⟨segments, hdenote⟩
      exact ⟨_, concatenateSignedTxns_ok.mpr ⟨segments, hdenote, rfl⟩⟩
  · unfold concatenateSignedTxns
    have hbranch : bytesToBase64 true = bytesToBase64 false := by
      funext bytes
      rw [bytesToBase64_eq, bytesToBase64_eq]
    rw [hbranch]
  · rw [bytesToBase64_eq, bytesToBase64_eq]
  · rw [bytesToHex_eq, hexToBytes_ok, hexDecode_hexEncode]

end AplaneSdk
