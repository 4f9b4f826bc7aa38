/-
# Merging the slots of several signers

`assemble_group` takes from every signer a list with one base64 text for each
slot, empty where the signer did not sign, and joins the transactions. Go scans
the lists slot by slot; Python and TypeScript filter each slot and decode
afterwards. They select the same entries. They differ in what they decode: Go
skips line ends, Python skips every character outside the alphabet and ends at
the padding, and Node's `Buffer` reads anything.

Key definitions: `Python.a2bBase64`, `Language.mergeDecode`, `Go.findSlot`,
`Language.assembleGroup`, `SelectsSlots`, `WellFormed`, `Merges`.
Key theorems: `a2bBase64_of_quads`, `Go.findSlot_ok`, `assembleGroup_ok`,
`merges_iff`.
-/
import AplaneSdk.SlotRequests
import AplaneSdk.Lib.Checks

namespace AplaneSdk

open Checks

/-! ### Base64 that is not validated -/

namespace Python

/-- The loop of `binascii.a2b_base64`, at a place in a quad, with the bits left
over and the pads seen there. What is no digit is skipped, and the pad that
completes a quad ends the reading. -/
def a2bBase64 (quad left pads : ℕ) : List Char → Option Bytes
  | [] => if quad = 0 then some [] else none
  | c :: rest =>
    if c = '=' then
      if 2 ≤ quad then
        if 4 ≤ quad + (pads + 1) then some [] else a2bBase64 quad left (pads + 1) rest
      else a2bBase64 quad left pads rest
    else match Base64.sextet c with
      | none => a2bBase64 quad left pads rest
      | some x => match quad with
        | 0 => a2bBase64 1 x 0 rest
        | 1 => (a2bBase64 2 (x % 16) 0 rest).map (UInt8.ofNat (4 * left + x / 16) :: ·)
        | 2 => (a2bBase64 3 (x % 4) 0 rest).map (UInt8.ofNat (16 * left + x / 4) :: ·)
        | _ => (a2bBase64 0 0 0 rest).map (UInt8.ofNat (64 * left + x) :: ·)

/-- `base64.b64decode` of a text, without `validate`. -/
def b64decodeUnvalidated (s : String) : Option Bytes :=
  if s.toList.all (·.toNat < 128) then a2bBase64 0 0 0 s.toList else none

end Python

/-- The decoding in `assembleGroup`. -/
def Language.mergeDecode (buffer : NodeBuffer) : Language → String → Option Bytes
  | .go => Go.stdDecodeString
  | .python => Python.b64decodeUnvalidated
  | .typescript => fun s => some (buffer.fromBase64 s)

/-! ### Slots -/

/-- The entries of the signers in one slot. The lists have one length by then. -/
def column (lists : List (List String)) (idx : ℕ) : List String := lists.map fun sl => sl.getD idx ""

def noSigner (idx : ℕ) : String := s!"slot {idx}: no signer provided a signed transaction"

def multipleSigners (idx : ℕ) : String := s!"slot {idx}: multiple signers provided a signed transaction"

/-- The scan of a slot, with what it has found so far. -/
def Go.findSlot (idx : ℕ) : String → List String → Except SdkError String
  | found, [] => .ok found
  | found, entry :: rest =>
    if entry ≠ "" then
      if found ≠ "" then .error (Go.err (multipleSigners idx)) else Go.findSlot idx entry rest
    else Go.findSlot idx found rest

/-- The body of Go's loop up to the decoding. -/
def Go.slot (lists : List (List String)) (idx : ℕ) : Except SdkError String := do
  let found ← Go.findSlot idx "" (column lists idx)
  failIf (found = "") (Go.err (noSigner idx))
  pure found

/-- The body of the loop of Python and TypeScript. -/
def filterSlot (err : String → SdkError) (lists : List (List String)) (idx : ℕ) : Except SdkError String :=
  match (column lists idx).filter (· ≠ "") with
  | [] => .error (err (noSigner idx))
  | [entry] => .ok entry
  | _ => .error (err (multipleSigners idx))

def Language.err (L : Language) : String → SdkError :=
  match L with
  | go => Go.err
  | python => Python.err
  | typescript => TypeScript.err

def Language.slot (L : Language) : List (List String) → ℕ → Except SdkError String :=
  match L with
  | go => Go.slot
  | _ => filterSlot L.err

/-! ### The group -/

def Language.signedLists (L : Language) : String :=
  match L with
  | python => "signed_lists"
  | _ => "signedLists"

/-- The decoding of a slot; TypeScript's cannot fail. -/
def Language.decodeSlot (L : Language) (buffer : NodeBuffer) (why : String → String) (idx : ℕ) (entry : String) :
    Except SdkError Bytes :=
  match L.mergeDecode buffer entry with
  | some bytes => .ok bytes
  | none => .error (L.err (if L = .go then s!"slot {idx}: invalid base64: " ++ why entry else why entry))

/-- The bytes of the slots. Go decodes each slot as it comes to it, the others
when all slots are found. -/
def Language.slotBytes (L : Language) (buffer : NodeBuffer) (why : String → String) (lists : List (List String))
    (slots : List ℕ) : Except SdkError (List Bytes) :=
  match L with
  | go => mapEach (fun idx slot => do
      let entry ← L.slot lists slot
      L.decodeSlot buffer why idx entry) 0 slots
  | _ => do
    let merged ← mapEach (fun _ slot => L.slot lists slot) 0 slots
    mapEach (fun idx entry => L.decodeSlot buffer why idx entry) 0 merged

/-- `AssembleGroup`, `assemble_group`, `assembleGroup`; `why` is the complaint
of a base64 decoder. -/
def Language.assembleGroup (L : Language) (buffer : NodeBuffer) (why : String → String)
    (lists : List (List String)) : Except SdkError String := do
  failIf (lists = []) (L.err (L.signedLists ++ " must not be empty"))
  let groupLen := (lists.headD []).length
  forEach (fun i sl => failIf (sl.length ≠ groupLen)
    (L.err s!"{L.signedLists}[{i}] has {sl.length} entries, expected {groupLen}")) 0 lists
  let bytes ← L.slotBytes buffer why lists (List.range groupLen)
  pure (String.ofList (Base64.encode bytes.flatten))

/-! ### What the decoders read -/

section Decoders

variable {text : List Char} {bytes : Bytes} {left pads x : ℕ} {c : Char} {rest : List Char}

theorem a2bBase64_zero (h : Base64.sextet c = some x) :
    Python.a2bBase64 0 left pads (c :: rest) = Python.a2bBase64 1 x 0 rest := by
  rw [Python.a2bBase64, if_neg (Base64.sextet_ne_pad h), h]
  rfl

theorem a2bBase64_one (h : Base64.sextet c = some x) : Python.a2bBase64 1 left pads (c :: rest) =
    (Python.a2bBase64 2 (x % 16) 0 rest).map (UInt8.ofNat (4 * left + x / 16) :: ·) := by
  rw [Python.a2bBase64, if_neg (Base64.sextet_ne_pad h), h]
  rfl

theorem a2bBase64_two (h : Base64.sextet c = some x) : Python.a2bBase64 2 left pads (c :: rest) =
    (Python.a2bBase64 3 (x % 4) 0 rest).map (UInt8.ofNat (16 * left + x / 4) :: ·) := by
  rw [Python.a2bBase64, if_neg (Base64.sextet_ne_pad h), h]
  rfl

theorem a2bBase64_three (h : Base64.sextet c = some x) : Python.a2bBase64 3 left pads (c :: rest) =
    (Python.a2bBase64 0 0 0 rest).map (UInt8.ofNat (64 * left + x) :: ·) := by
  rw [Python.a2bBase64, if_neg (Base64.sextet_ne_pad h), h]
  rfl

/-- The loop reads a well-formed text as it stands. -/
theorem a2bBase64_of_quads (h : Base64.Quads text bytes) : Python.a2bBase64 0 0 0 text = some bytes := by
  induction h with
  | nil => rfl
  | two ha hb =>
    rw [a2bBase64_zero ha, a2bBase64_one hb]
    rfl
  | three ha hb hc =>
    rw [a2bBase64_zero ha, a2bBase64_one hb, a2bBase64_two hc]
    rfl
  | cons ha hb hc hd hrest ih =>
    rw [a2bBase64_zero ha, a2bBase64_one hb, a2bBase64_two hc, a2bBase64_three hd, ih]
    rfl

/-- A text of the alphabet, padded to whole quads, and nothing else. -/
def WellFormed (s : String) : Prop := ∃ bytes, Base64.decode s.toList = some bytes

theorem goDecode_of_decode {s : String} (h : Base64.decode s.toList = some bytes) :
    Go.stdDecodeString s = some bytes := by
  have hkeep : (s.toList.filter fun c => c ≠ '\n' && c ≠ '\r') = s.toList := by
    rw [List.filter_eq_self]
    intro c hc
    have hblank := Base64.isBlank_of_decode h c hc
    have hline : c ≠ '\n' := by
      rintro rfl
      cases hblank
    have hreturn : c ≠ '\r' := by
      rintro rfl
      cases hblank
    simp [hline, hreturn]
  rw [Go.stdDecodeString, hkeep, h]

theorem pythonDecode_of_decode {s : String} (h : Base64.decode s.toList = some bytes) :
    Python.b64decodeUnvalidated s = some bytes := by
  have hascii : s.toList.all (·.toNat < 128) = true := by
    rw [List.all_eq_true]
    intro c hc
    rw [decide_eq_true_eq]
    rcases Base64.mem_of_decode h c hc with ⟨n, hn⟩ | rfl
    · exact Base64.sextet_lt hn
    · decide
  rw [Python.b64decodeUnvalidated, if_pos hascii]
  exact a2bBase64_of_quads (Base64.decode_iff_quads.mp h)

/-- What is well formed, all of them read alike. -/
theorem Language.mergeDecode_of_decode {L : Language} {buffer : NodeBuffer} {s : String}
    (h : Base64.decode s.toList = some bytes) : L.mergeDecode buffer s = some bytes := by
  cases L with
  | go => exact goDecode_of_decode h
  | python => exact pythonDecode_of_decode h
  | typescript => exact congrArg some (buffer.standard h)

/-- What Go reads beyond the well-formed has a line end in it. -/
theorem goDecode_wellFormed_iff {s : String} (h : Go.stdDecodeString s ≠ none) :
    WellFormed s ↔ '\n' ∉ s.toList ∧ '\r' ∉ s.toList := by
  constructor
  · rintro ⟨bytes, hbytes⟩
    have hblank := Base64.isBlank_of_decode hbytes
    exact ⟨fun hmem => (nomatch hblank _ hmem), fun hmem => (nomatch hblank _ hmem)⟩
  · rintro ⟨hline, hreturn⟩
    have hkeep : (s.toList.filter fun c => c ≠ '\n' && c ≠ '\r') = s.toList := by
      rw [List.filter_eq_self]
      intro c hc
      have h1 : c ≠ '\n' := fun heq => hline (heq ▸ hc)
      have h2 : c ≠ '\r' := fun heq => hreturn (heq ▸ hc)
      simp [h1, h2]
    rw [Go.stdDecodeString, hkeep] at h
    exact Option.ne_none_iff_exists'.mp h

end Decoders

/-! ### What is selected -/

theorem Go.findSlot_ok {idx : ℕ} {s : String} : ∀ {entries : List String} {found : String},
    Go.findSlot idx found entries = .ok s ↔ (found :: entries).filter (· ≠ "") = [s].filter (· ≠ "")
  | [], found => by
    rw [Go.findSlot, Except.ok.injEq]
    by_cases hf : found = "" <;> by_cases hs : s = "" <;> simp [hf, hs, Ne.symm, eq_comm]
  | entry :: rest, found => by
    rw [Go.findSlot]
    by_cases he : entry = ""
    · rw [if_neg (not_not.mpr he), Go.findSlot_ok, he]
      by_cases hf : found = "" <;> simp [hf]
    · rw [if_pos he]
      by_cases hf : found = ""
      · rw [if_neg (not_not.mpr hf), Go.findSlot_ok, hf]
        simp
      · rw [if_pos hf]
        have hlong : (found :: entry :: rest).filter (· ≠ "") ≠ [s].filter (· ≠ "") := by
          intro h
          have hlen := congrArg List.length h
          have hle := List.length_filter_le (fun x : String => decide (x ≠ "")) [s]
          simp [hf, he] at hlen
          simp at hle
          omega
        simpa using hlong

theorem ne_empty_of_filter {entries : List String} {s : String} (h : entries.filter (· ≠ "") = [s]) : s ≠ "" := by
  have hmem : s ∈ entries.filter (· ≠ "") := h ▸ List.mem_singleton_self s
  simpa using (List.mem_filter.mp hmem).2

/-- The one entry of a slot that is not empty. -/
theorem Language.slot_ok {L : Language} {lists : List (List String)} {idx : ℕ} {s : String} :
    L.slot lists idx = .ok s ↔ (column lists idx).filter (· ≠ "") = [s] := by
  have hfilter : filterSlot L.err lists idx = .ok s ↔ (column lists idx).filter (· ≠ "") = [s] := by
    unfold filterSlot
    split
    · rename_i heq
      rw [heq]
      exact ⟨fun h => (nomatch h), fun h => (nomatch h)⟩
    · rename_i entry heq
      rw [heq, Except.ok.injEq, List.singleton_inj]
    · rename_i hnil hone
      refine ⟨fun h => (nomatch h), fun h => absurd h (hone s)⟩
  cases L with
  | python => exact hfilter
  | typescript => exact hfilter
  | go =>
    show Go.slot lists idx = .ok s ↔ _
    simp only [Go.slot, bind_eq_ok, failIf_ok, Go.findSlot_ok, exists_const, pure_eq_ok]
    constructor
    · rintro ⟨found, hfound, hne, rfl⟩
      simpa [hne] using hfound
    · intro h
      have hne := ne_empty_of_filter h
      exact ⟨s, by simpa [hne] using h, hne, rfl⟩

/-- The entries that are merged, one for each slot. -/
structure SelectsSlots (lists : List (List String)) (chosen : List String) : Prop where
  lengths : ∀ sl ∈ lists, sl.length = chosen.length
  one : ∀ idx s, chosen[idx]? = some s → (column lists idx).filter (· ≠ "") = [s]

theorem SelectsSlots.unique {lists : List (List String)} {chosen chosen' : List String} (hne : lists ≠ [])
    (h : SelectsSlots lists chosen) (h' : SelectsSlots lists chosen') : chosen = chosen' := by
  obtain ⟨sl, hsl⟩ := List.exists_mem_of_ne_nil lists hne
  have hlen : chosen.length = chosen'.length := (h.lengths sl hsl).symm.trans (h'.lengths sl hsl)
  refine List.ext_getElem hlen fun idx hidx hidx' => ?_
  have hone := h.one idx _ (List.getElem?_eq_getElem hidx)
  have hone' := h'.one idx _ (List.getElem?_eq_getElem hidx')
  exact List.singleton_inj.mp (hone.symm.trans hone')

/-- The order of the signers does not matter to what is selected. -/
theorem SelectsSlots.perm {lists lists' : List (List String)} {chosen : List String} (hperm : lists'.Perm lists)
    (h : SelectsSlots lists chosen) : SelectsSlots lists' chosen := by
  refine ⟨fun sl hsl => h.lengths sl (hperm.mem_iff.mp hsl), fun idx s hs => ?_⟩
  have hcolumn : ((column lists' idx).filter (· ≠ "")).Perm ((column lists idx).filter (· ≠ "")) :=
    (hperm.map _).filter _
  rw [h.one idx s hs] at hcolumn
  exact List.perm_singleton.mp hcolumn

section Group

variable {L : Language} {buffer : NodeBuffer} {why : String → String} {lists : List (List String)} {out : String}

theorem Language.decodeSlot_ok {idx : ℕ} {entry : String} {bytes : Bytes} :
    L.decodeSlot buffer why idx entry = .ok bytes ↔ L.mergeDecode buffer entry = some bytes := by
  unfold Language.decodeSlot
  cases L.mergeDecode buffer entry <;> simp

/-- Decoding slot by slot and decoding at the end come to the same. -/
theorem Language.slotBytes_ok {slots : List ℕ} {bytes : List Bytes} :
    L.slotBytes buffer why lists slots = .ok bytes ↔
      List.Forall₂ (fun idx b => ∃ entry, L.slot lists idx = .ok entry ∧ L.mergeDecode buffer entry = some b)
        slots bytes := by
  have hlater : (do
      let merged ← mapEach (fun _ slot => L.slot lists slot) 0 slots
      mapEach (fun idx entry => L.decodeSlot buffer why idx entry) 0 merged) = .ok bytes ↔
      List.Forall₂ (fun idx b => ∃ entry, L.slot lists idx = .ok entry ∧ L.mergeDecode buffer entry = some b)
        slots bytes := by
    rw [bind_eq_ok, ← forall₂_comp]
    refine exists_congr fun merged => and_congr mapEach_forall₂ ?_
    refine mapEach_rel fun idx entry b => ?_
    exact Language.decodeSlot_ok
  cases L with
  | python => exact hlater
  | typescript => exact hlater
  | go =>
    refine mapEach_rel fun idx slot b => ?_
    rw [bind_eq_ok]
    exact exists_congr fun entry => and_congr_right fun _ => Language.decodeSlot_ok

/-- **What is merged.** The call succeeds where the lists select an entry for
each slot and the decoder takes them all, with the bytes one behind the other. -/
theorem assembleGroup_ok : L.assembleGroup buffer why lists = .ok out ↔ lists ≠ [] ∧
    ∃ chosen bytes, SelectsSlots lists chosen ∧
      List.Forall₂ (fun s b => L.mergeDecode buffer s = some b) chosen bytes ∧
      out = String.ofList (Base64.encode bytes.flatten) := by
  unfold Language.assembleGroup
  rw [seq_eq_ok, failIf_ok]
  refine and_congr_right fun hne => ?_
  simp only [forEach_ok, failIf_ok, not_not, bind_eq_ok, pure_eq_ok, exists_const, forall_getElem?]
  constructor
  · rintro ⟨hlengths, bytes, hbytes, rfl⟩
    rw [Language.slotBytes_ok, ← forall₂_comp] at hbytes
    obtain ⟨chosen, hslots, hdecode⟩ := hbytes
    have hlen : (lists.headD []).length = chosen.length := by
      rw [← hslots.length_eq, List.length_range]
    refine ⟨chosen, bytes, ⟨fun sl hsl => (hlengths sl hsl).trans hlen, fun idx s hs => ?_⟩, hdecode, rfl⟩
    obtain ⟨hidx, rfl⟩ := List.getElem?_eq_some_iff.mp hs
    have hslot := hslots.get (hslots.length_eq ▸ hidx) hidx
    simp only [List.get_eq_getElem, List.getElem_range] at hslot
    exact Language.slot_ok.mp hslot
  · rintro ⟨chosen, bytes, hselects, hdecode, rfl⟩
    have hlen : (lists.headD []).length = chosen.length := by
      cases lists with
      | nil => exact absurd rfl hne
      | cons sl rest => exact hselects.lengths sl List.mem_cons_self
    rw [hlen]
    refine ⟨hselects.lengths, bytes, ?_, rfl⟩
    rw [Language.slotBytes_ok, ← forall₂_comp]
    refine ⟨chosen, List.forall₂_iff_get.mpr ⟨List.length_range, fun idx hidx hidx' => ?_⟩, hdecode⟩
    simp only [List.get_eq_getElem, List.getElem_range]
    exact Language.slot_ok.mpr (hselects.one idx _ (List.getElem?_eq_getElem hidx'))

/-! ### A merge that alters nothing -/

/-- What is promised of a merge: it succeeds on well-formed entries alone, one
for each slot, joins what they decode to, and does not look at the order of the
signers. -/
structure Merges (L : Language) (buffer : NodeBuffer) (why : String → String) (lists : List (List String)) :
    Prop where
  succeeds : (∃ out, L.assembleGroup buffer why lists = .ok out) ↔
    ∃ chosen, SelectsSlots lists chosen ∧ ∀ s ∈ chosen, WellFormed s
  joins : ∀ out, L.assembleGroup buffer why lists = .ok out →
    ∃ chosen bytes, SelectsSlots lists chosen ∧
      List.Forall₂ (fun s b => Base64.decode s.toList = some b) chosen bytes ∧
      Base64.decode out.toList = some bytes.flatten
  unordered : ∀ lists' out, lists'.Perm lists → L.assembleGroup buffer why lists = .ok out →
    L.assembleGroup buffer why lists' = .ok out

/-- The entries that a decoder should refuse and may take: for Go those with a
line end in them, for the others all that are malformed. -/
def Language.Tolerable (L : Language) (s : String) : Prop :=
  match L with
  | go => '\n' ∈ s.toList ∨ '\r' ∈ s.toList
  | _ => ¬ WellFormed s

theorem Language.wellFormed_iff {s : String} (h : L.mergeDecode buffer s ≠ none) :
    WellFormed s ↔ ¬ L.Tolerable s := by
  cases L with
  | go => exact (goDecode_wellFormed_iff h).trans not_or.symm
  | python => exact not_not.symm
  | typescript => exact not_not.symm

/-- On what is well formed the decoder has no choice. -/
theorem Language.decode_of_mergeDecode {s : String} {b : Bytes} (hwf : WellFormed s)
    (h : L.mergeDecode buffer s = some b) : Base64.decode s.toList = some b := by
  obtain ⟨b', hb'⟩ := hwf
  have hread : L.mergeDecode buffer s = some b' := Language.mergeDecode_of_decode hb'
  have hsame : b' = b := Option.some.inj (hread.symm.trans h)
  rw [hb', hsame]

theorem assembleGroup_of_selects {chosen : List String} (hne : lists ≠ []) (hselects : SelectsSlots lists chosen)
    (h : ∀ s ∈ chosen, L.mergeDecode buffer s ≠ none) : ∃ out, L.assembleGroup buffer why lists = .ok out := by
  obtain ⟨bytes, hbytes⟩ := exists_forall₂.mpr fun s hs => Option.ne_none_iff_exists'.mp (h s hs)
  exact ⟨_, assembleGroup_ok.mpr ⟨hne, chosen, bytes, hselects, hbytes, rfl⟩⟩

theorem assembleGroup_perm {lists' : List (List String)} (hperm : lists'.Perm lists)
    (h : L.assembleGroup buffer why lists = .ok out) : L.assembleGroup buffer why lists' = .ok out := by
  obtain ⟨hne, chosen, bytes, hselects, hdecode, hout⟩ := assembleGroup_ok.mp h
  have hne' : lists' ≠ [] := fun hnil => hne (List.nil_perm.mp (hnil ▸ hperm))
  exact assembleGroup_ok.mpr ⟨hne', chosen, bytes, hselects.perm hperm, hdecode, hout⟩

/-- **When a merge alters nothing.** Unless the lists select entries which the
decoder takes though one of them is malformed. -/
theorem merges_iff (hne : lists ≠ []) : Merges L buffer why lists ↔
    ∀ chosen, SelectsSlots lists chosen → (∀ s ∈ chosen, L.mergeDecode buffer s ≠ none) →
      ∀ s ∈ chosen, ¬ L.Tolerable s := by
  constructor
  · intro h chosen hselects hdecode s hs
    obtain ⟨chosen', hselects', hwf⟩ := h.succeeds.mp (assembleGroup_of_selects hne hselects hdecode)
    have heq : chosen' = chosen := hselects'.unique hne hselects
    rw [heq] at hwf
    exact (Language.wellFormed_iff (hdecode s hs)).mp (hwf s hs)
  · intro h
    have hstrict : ∀ out, L.assembleGroup buffer why lists = .ok out → ∃ chosen bytes, SelectsSlots lists chosen ∧
        List.Forall₂ (fun s b => Base64.decode s.toList = some b) chosen bytes ∧
        out = String.ofList (Base64.encode bytes.flatten) := by
      intro out hout
      obtain ⟨-, chosen, bytes, hselects, hdecode, rfl⟩ := assembleGroup_ok.mp hout
      refine ⟨chosen, bytes, hselects, ?_, rfl⟩
      have htaken : ∀ s ∈ chosen, L.mergeDecode buffer s ≠ none := by
        intro s hs
        obtain ⟨b, -, hb⟩ := exists_of_forall₂ hdecode s hs
        rw [hb]
        exact Option.some_ne_none b
      have hwf : ∀ s ∈ chosen, WellFormed s := by
        intro s hs
        exact (Language.wellFormed_iff (htaken s hs)).mpr (h chosen hselects htaken s hs)
      refine ((List.forall₂_and_left chosen bytes).mpr ⟨hwf, hdecode⟩).imp ?_
      intro s b hboth
      exact Language.decode_of_mergeDecode hboth.1 hboth.2
    refine ⟨⟨?_, ?_⟩, ?_, fun lists' out => assembleGroup_perm⟩
    · rintro ⟨out, hout⟩
      obtain ⟨chosen, bytes, hselects, hdecode, -⟩ := hstrict out hout
      exact ⟨chosen, hselects, exists_forall₂.mp ⟨bytes, hdecode⟩⟩
    · rintro ⟨chosen, hselects, hwf⟩
      refine assembleGroup_of_selects hne hselects fun s hs => ?_
      obtain ⟨b, hb⟩ := hwf s hs
      rw [Language.mergeDecode_of_decode hb]
      exact Option.some_ne_none _
    · intro out hout
      obtain ⟨chosen, bytes, hselects, hdecode, rfl⟩ := hstrict out hout
      refine ⟨chosen, bytes, hselects, hdecode, ?_⟩
      rw [String.toList_ofList, Base64.decode_encode]

end Group

namespace Demo

/-- Two signers, each with one of two slots. -/
theorem merges_twoSigners : Merges .go forgivingBuffer id [["AAAA", ""], ["", "AAA="]] :=
  (merges_iff (by decide)).mpr fun chosen hselects _ s hs => by
    have htwo : SelectsSlots [["AAAA", ""], ["", "AAA="]] ["AAAA", "AAA="] := by
      refine ⟨by decide, fun idx t ht => ?_⟩
      match idx with
      | 0 => cases ht; rfl
      | 1 => cases ht; rfl
    have heq : chosen = ["AAAA", "AAA="] := hselects.unique (by decide) htwo
    subst heq
    show ¬ ('\n' ∈ s.toList ∨ '\r' ∈ s.toList)
    revert s
    decide

/-- A Node release that passes over what is no digit. -/
def lenientBuffer : NodeBuffer where
  fromBase64 s := Base64.lenient s.toList
  standard h := Base64.lenient_of_decode h

/-- A malformed entry that is selected alone and taken. -/
theorem not_merges_of_malformed {L : Language} {s : String} (out : String) (hs : s ≠ "")
    (hmalformed : Base64.decode s.toList = none) (h : L.assembleGroup lenientBuffer id [[s]] = .ok out) :
    ¬ Merges L lenientBuffer id [[s]] := by
  intro hmerges
  obtain ⟨chosen, hselects, hwf⟩ := hmerges.succeeds.mp ⟨out, h⟩
  have halone : SelectsSlots [[s]] [s] := by
    refine ⟨by simp, fun idx t ht => ?_⟩
    match idx with
    | 0 =>
      cases ht
      simp [column, hs]
  rw [hselects.unique (by simp) halone] at hwf
  obtain ⟨bytes, hbytes⟩ := hwf s (List.mem_singleton_self s)
  rw [hmalformed] at hbytes
  cases hbytes

/-- Go joins an entry that ends in a line feed, Python loses what stands behind
the padding, and Node reads over what is no digit. -/
theorem merges_malformed : ¬ Merges .go lenientBuffer id [["AAAA\n"]] ∧
    ¬ Merges .python lenientBuffer id [["AA==AAAA"]] ∧ ¬ Merges .typescript lenientBuffer id [["AA!A"]] :=
  ⟨not_merges_of_malformed "AAAA" (by decide) (by decide +kernel) (by decide +kernel),
    not_merges_of_malformed "AA==" (by decide) (by decide +kernel) (by decide +kernel),
    not_merges_of_malformed "AAA=" (by decide) (by decide +kernel) (by decide +kernel)⟩

end Demo

end AplaneSdk
