/-
# What the checks of a plan decide

`decodeCanonicalGroup` accepts the encodings of properly grouped transactions
and nothing else, and gives these transactions back. The validation of a plan
is exact too, as long as its arithmetic is: what Python accepts is a plan that
differs from the originals as its report says. Two things go wrong. All three
SDKs take a position the report lists in `fees_modified` for a fee mutation,
also when its fee stays the same, and let the group id change on its account;
and Go adds the fees, and compares their sum, modulo 2^64.

Key definitions: `CanonicalEntry`, `ProperlyGrouped`, `PlanReport`, `ExactPlan`.
Key theorems: `decodeCanonicalGroup_exact`, `plan_exact`,
`regrouping_needs_mutation`, `total_fees_exact`.
-/
import Mathlib.Algebra.BigOperators.Ring.Finset
import AplaneSdk.Dialects

namespace AplaneSdk

open Checks

/-! ### Canonical groups -/

/-- An entry of a canonical group: the bytes of a transaction behind `TX`. -/
def CanonicalEntry (codec : Codec) (entry : String) (txn : Txn) : Prop :=
  ∃ body, codec.unhex entry = some (txPrefix ++ body) ∧ codec.sdk.decodeTxn body = .ok (some txn) ∧
    codec.sdk.encode txn = body

/-- The group id is absent, or the zero digest. -/
def Txn.Ungrouped (txn : Txn) : Prop := txn.group = [] ∨ txn.group = List.replicate 32 0

/-- The members carry one digest as their group id, and it is the hash of the
group without it. -/
def SharesGroupId (sdk : AlgoSdk) (txns : List Txn) : Prop :=
  ∃ g : Bytes, g.length = 32 ∧ g ≠ List.replicate 32 0 ∧ (∀ t ∈ txns, t.group = g) ∧
    sdk.groupHash (txns.map Txn.clearGroup) = .ok g

/-- A singleton has no group id, the members of a larger group share one. -/
def ProperlyGrouped (sdk : AlgoSdk) (txns : List Txn) : Prop :=
  (∃ t, txns = [t] ∧ t.Ungrouped) ∨ txns.length ≠ 1 ∧ SharesGroupId sdk txns

/-- How a codec reads the group id of a transaction. -/
structure Codec.ReadsGroup (codec : Codec) (t : Txn) : Prop where
  none_iff : codec.groupId t = .ok none ↔ t.Ungrouped
  some_iff : ∀ g, codec.groupId t = .ok (some g) ↔ t.group = g ∧ g.length = 32 ∧ g ≠ List.replicate 32 0

/-- A digest is a group id unless it is zero. -/
theorem noGroupId_iff {t : Txn} (h : t.group = [] ∨ t.group.length = 32) : noGroupId t.group = true ↔ t.Ungrouped := by
  unfold noGroupId Txn.Ungrouped
  rcases h with h | h
  · simp [h]
  · rw [List.eq_replicate_iff, List.all_eq_true]
    have hne : t.group ≠ [] := by
      intro hnil
      rw [hnil] at h
      cases h
    simp [h, hne]

/-- A codec that tells absent, whole and other group ids apart. -/
theorem readsGroup_of {codec : Codec} {t : Txn} (hnone : t.Ungrouped → codec.groupId t = .ok none)
    (hsome : ¬ t.Ungrouped → t.group.length = 32 → codec.groupId t = .ok (some t.group))
    (hbad : ¬ t.Ungrouped → t.group.length ≠ 32 → ∃ e, codec.groupId t = .error e) : codec.ReadsGroup t := by
  by_cases hu : t.Ungrouped
  · have hread := hnone hu
    refine ⟨by simp [hread, hu], fun g => ?_⟩
    simp only [hread, Except.ok.injEq, reduceCtorEq, false_iff]
    rintro ⟨rfl, hlen, hz⟩
    rcases hu with hnil | hzero
    · rw [hnil] at hlen
      cases hlen
    · exact hz hzero
  · have hz : t.group ≠ List.replicate 32 0 := fun hz => hu (Or.inr hz)
    by_cases hlen : t.group.length = 32
    · have hread := hsome hu hlen
      refine ⟨by simp [hread, hu], fun g => ?_⟩
      simp only [hread, Except.ok.injEq, Option.some.injEq]
      constructor
      · rintro rfl
        exact ⟨rfl, hlen, hz⟩
      · exact fun h => h.1
    · obtain ⟨e, hread⟩ := hbad hu hlen
      refine ⟨by simp [hread, hu], fun g => ?_⟩
      simp only [hread, reduceCtorEq, false_iff]
      rintro ⟨rfl, hlen', -⟩
      exact hlen hlen'

theorem Language.readsGroup (env : Env) (L : Language) {t : Txn}
    (h : L ≠ .python → t.group = [] ∨ t.group.length = 32) : (L.dialect env).codec.ReadsGroup t := by
  cases L with
  | go =>
    have htyped := noGroupId_iff (h (by decide))
    have hlen : ¬ t.Ungrouped → t.group.length = 32 := fun hu =>
      (h (by decide)).resolve_left fun hnil => hu (Or.inl hnil)
    refine readsGroup_of (fun hu => ?_) (fun hu _ => ?_) fun hu hbad => absurd (hlen hu) hbad
    · exact congrArg Except.ok (if_pos (htyped.mpr hu))
    · exact congrArg Except.ok (if_neg (mt htyped.mp hu))
  | python =>
    refine readsGroup_of (fun hu => ?_) (fun hu hlen => ?_) fun hu hlen => ?_
    · exact if_pos hu
    · exact (if_neg hu).trans (if_neg (not_not.mpr hlen))
    · exact ⟨_, (if_neg hu).trans (if_pos hlen)⟩
  | typescript =>
    have htyped := noGroupId_iff (h (by decide))
    have hlen : ¬ t.Ungrouped → t.group.length = 32 := fun hu =>
      (h (by decide)).resolve_left fun hnil => hu (Or.inl hnil)
    refine readsGroup_of (fun hu => ?_) (fun hu hlen => ?_) fun hu hbad => absurd (hlen hu) hbad
    · exact if_pos (htyped.mpr hu)
    · exact (if_neg (mt htyped.mp hu)).trans (if_neg (not_not.mpr hlen))

section Decoding

variable {codec : Codec}

theorem checkMemberGroup_iff {t : Txn} (h : codec.ReadsGroup t) {g : Bytes} {i : ℕ} {u : Unit} :
    checkMemberGroup codec g i t = .ok u ↔ t.group = g ∧ g.length = 32 ∧ g ≠ List.replicate 32 0 := by
  rw [← h.some_iff]
  simp only [checkMemberGroup, bind_eq_ok (α := Option Bytes), seq_eq_ok, failIf_ok, not_not]
  constructor
  · rintro ⟨current, hread, -, rfl⟩
    exact hread
  · intro hread
    exact ⟨some g, hread, by simp, rfl⟩

/-- The group id check decides `ProperlyGrouped`. -/
theorem checkGroupIds_iff {txns : List Txn} (hread : ∀ t ∈ txns, codec.ReadsGroup t) (hne : txns ≠ []) {u : Unit} :
    checkGroupIds codec txns = .ok u ↔ ProperlyGrouped codec.sdk txns := by
  cases txns with
  | nil => exact absurd rfl hne
  | cons first others =>
    have hfirst := hread first (List.mem_cons_self ..)
    cases others with
    | nil =>
      simp only [checkGroupIds, bind_eq_ok (α := Option Bytes), failIf_ok, not_not]
      constructor
      · rintro ⟨_, hnone, rfl⟩
        exact Or.inl ⟨first, rfl, hfirst.none_iff.mp hnone⟩
      · rintro (⟨_, heq, hu⟩ | ⟨hlen, -⟩)
        · cases heq
          exact ⟨none, hfirst.none_iff.mpr hu, rfl⟩
        · exact absurd rfl hlen
    | cons second rest =>
      have hmembers : ∀ g, forEach (checkMemberGroup codec g) 1 (second :: rest) = .ok () ↔
          ∀ t ∈ second :: rest, t.group = g ∧ g.length = 32 ∧ g ≠ List.replicate 32 0 := by
        intro g
        rw [forEach_ok, ← forall_getElem? (P := fun t : Txn => t.group = g ∧ g.length = 32 ∧ g ≠ List.replicate 32 0)]
        refine forall₃_congr fun j t hj => ?_
        exact checkMemberGroup_iff (hread t (List.mem_cons_of_mem _ (List.mem_of_getElem? hj)))
      simp only [checkGroupIds, bind_eq_ok (α := Option Bytes)]
      constructor
      · rintro ⟨groupId, hid, h⟩
        cases groupId with
        | none => cases h
        | some g =>
          obtain ⟨heach, hlast⟩ := seq_eq_ok.mp h
          obtain ⟨hg, hlen, hz⟩ := (hfirst.some_iff g).mp hid
          cases hash : codec.sdk.groupHash ((first :: second :: rest).map Txn.clearGroup) with
          | error why =>
            rw [hash] at hlast
            cases hlast
          | ok computed =>
            rw [hash] at hlast
            have hcomputed : computed = g := not_not.mp (failIf_ok.mp hlast)
            rw [hcomputed] at hash
            refine Or.inr ⟨by simp, g, hlen, hz, fun t ht => ?_, hash⟩
            rcases List.mem_cons.mp ht with rfl | ht
            · exact hg
            · exact ((hmembers g).mp heach t ht).1
      · rintro (⟨_, heq, -⟩ | ⟨-, g, hlen, hz, hshared, hash⟩)
        · cases heq
        · refine ⟨some g, (hfirst.some_iff g).mpr ⟨hshared first (List.mem_cons_self ..), hlen, hz⟩, ?_⟩
          refine seq_eq_ok.mpr ⟨(hmembers g).mpr fun t ht => ?_, ?_⟩
          · exact ⟨hshared t (List.mem_cons_of_mem _ ht), hlen, hz⟩
          · rw [hash]
            exact failIf_ok.mpr (not_not.mpr rfl)

theorem decodeBody_ok {i : ℕ} {body : Bytes} {t : Txn} :
    codec.decodeBody i body = .ok t ↔ codec.sdk.decodeTxn body = .ok (some t) := by
  unfold Codec.decodeBody
  rcases codec.sdk.decodeTxn body with why | found
  · simp [signerError]
  · cases found <;> simp [signerError]

/-- One entry decodes when it is canonical. An encoding is never empty, so the
test of the length comes down to that of the prefix. -/
theorem decodeEntry_iff (hencode : ∀ t, codec.sdk.encode t ≠ []) {i : ℕ} {s : String} {t : Txn} :
    decodeEntry codec i s = .ok t ↔ CanonicalEntry codec s t := by
  simp only [decodeEntry, bind_eq_ok, unhexEntry_ok, failIf_ok, not_not, pure_eq_ok, decodeBody_ok]
  constructor
  · rintro ⟨raw, hraw, _, -, txn, hdecode, _, hcanonical, rfl⟩
    have hdrop : raw.drop 2 = codec.sdk.encode txn := by
      rw [hcanonical]
      rfl
    rw [hdrop] at hdecode
    rw [hcanonical] at hraw
    exact ⟨codec.sdk.encode txn, hraw, hdecode, rfl⟩
  · rintro ⟨body, hraw, hdecode, rfl⟩
    have hpos := List.length_pos_iff.mpr (hencode t)
    refine ⟨_, hraw, (), ?_, t, hdecode, (), rfl, rfl⟩
    simp only [txPrefix, List.cons_append, List.nil_append, List.length_cons, not_or, not_lt, not_not]
    exact ⟨by omega, rfl⟩

/-- What `decodeCanonicalGroup` accepts. -/
theorem decodeCanonicalGroup_iff (hencode : ∀ t, codec.sdk.encode t ≠ [])
    (hread : ∀ body t, codec.sdk.decodeTxn body = .ok (some t) → codec.ReadsGroup t) {group : List String}
    {txns : List Txn} : decodeCanonicalGroup codec group = .ok txns ↔
      (1 ≤ group.length ∧ group.length ≤ 16) ∧ group.length = txns.length ∧
        (∀ (i : ℕ) s t, group[i]? = some s → txns[i]? = some t → CanonicalEntry codec s t) ∧
        ProperlyGrouped codec.sdk txns := by
  simp only [decodeCanonicalGroup, bind_eq_ok (α := List Txn), seq_eq_ok, failIf_ok, pure_eq_ok,
    mapEach_ok, not_lt, decodeEntry_iff hencode]
  have hreads : ∀ {txns : List Txn}, group.length = txns.length →
      (∀ (i : ℕ) s t, group[i]? = some s → txns[i]? = some t → CanonicalEntry codec s t) →
      ∀ t ∈ txns, codec.ReadsGroup t := by
    intro txns hlen heach t ht
    obtain ⟨i, hi⟩ := List.mem_iff_getElem?.mp ht
    obtain ⟨hlt, -⟩ := List.getElem?_eq_some_iff.mp hi
    obtain ⟨body, -, hdecode, -⟩ := heach i _ t (List.getElem?_eq_getElem (hlen ▸ hlt : i < group.length)) hi
    exact hread body t hdecode
  constructor
  · rintro ⟨hne, hmax, _, ⟨hlen, heach⟩, hgroup, rfl⟩
    have hpos := List.length_pos_iff.mpr hne
    refine ⟨⟨hpos, hmax⟩, hlen, heach, ?_⟩
    exact (checkGroupIds_iff (hreads hlen heach) (List.length_pos_iff.mp (hlen ▸ hpos))).mp hgroup
  · rintro ⟨⟨hpos, hmax⟩, hlen, heach, hgroup⟩
    refine ⟨List.length_pos_iff.mp hpos, hmax, txns, ⟨hlen, heach⟩, ?_, rfl⟩
    exact (checkGroupIds_iff (hreads hlen heach) (List.length_pos_iff.mp (hlen ▸ hpos))).mpr hgroup

end Decoding

theorem unhex_hexEncode (env : Env) (bytes : Bytes) :
    ∀ L : Language, (L.dialect env).codec.unhex (hexEncode bytes) = some bytes
  | .go => hexDecode_hexEncode bytes
  | .python => fromHex_of_hexDecode (hexDecode_hexEncode bytes)
  | .typescript => hexDecode_hexEncode bytes

/-- **Decoding a canonical group is exact.** It succeeds on one to sixteen
canonical entries of properly grouped transactions, gives back transactions
that encode to the bytes it was given, and inverts the encoding of a properly
grouped list. -/
theorem decodeCanonicalGroup_exact (env : Env) (L : Language) (hencode : ∀ t, env.encode t ≠ [])
    (hdigest : L ≠ .python → ∀ body t, env.decodeTxn body = .ok (some t) → t.group = [] ∨ t.group.length = 32) :
    (∀ group txns, decodeCanonicalGroup (L.dialect env).codec group = .ok txns ↔
      (1 ≤ group.length ∧ group.length ≤ 16) ∧ group.length = txns.length ∧
        (∀ (i : ℕ) s t, group[i]? = some s → txns[i]? = some t → CanonicalEntry (L.dialect env).codec s t) ∧
        ProperlyGrouped env.toAlgoSdk txns) ∧
    (∀ group txns, decodeCanonicalGroup (L.dialect env).codec group = .ok txns →
      group.map (L.dialect env).codec.unhex = txns.map fun t => some (env.encodeTxn t)) ∧
    ∀ txns, 1 ≤ txns.length → txns.length ≤ 16 → ProperlyGrouped env.toAlgoSdk txns →
      (∀ t ∈ txns, env.decodeTxn (env.encode t) = .ok (some t)) →
        decodeCanonicalGroup (L.dialect env).codec (txns.map fun t => hexEncode (env.encodeTxn t)) = .ok txns := by
  have hsdk := L.dialect_sdk env
  have hexact : ∀ group txns, decodeCanonicalGroup (L.dialect env).codec group = .ok txns ↔ _ := fun group txns =>
    decodeCanonicalGroup_iff (by rw [hsdk]; exact hencode)
      (by rw [hsdk]; exact fun body t hdecode => L.readsGroup env fun hL => hdigest hL body t hdecode)
  simp only [hsdk] at hexact
  refine ⟨hexact, fun group txns h => ?_, fun txns hpos hmax hgroup hdecode => ?_⟩
  · obtain ⟨-, hlen, heach, -⟩ := (hexact group txns).mp h
    refine List.ext_getElem (by simp [hlen]) fun i hi hi' => ?_
    rw [List.length_map] at hi hi'
    obtain ⟨body, hunhex, -, hbody⟩ := heach i _ _ (List.getElem?_eq_getElem hi) (List.getElem?_eq_getElem hi')
    rw [hsdk] at hbody
    rw [List.getElem_map, List.getElem_map, hunhex, ← hbody]
    rfl
  · refine (hexact _ _).mpr ⟨by simp [hpos, hmax], by simp, fun i s t hs ht => ?_, hgroup⟩
    rw [List.getElem?_map, ht] at hs
    cases hs
    refine ⟨env.encode t, unhex_hexEncode env _ L, ?_, ?_⟩
    · rw [hsdk]
      exact hdecode t (List.mem_of_getElem? ht)
    · rw [hsdk]

namespace Demo

/-- The hash of `payment` as a group of its own. -/
def loneGroup : Bytes :=
  [0x89, 0x30, 0x2b, 0x3a, 0x9e, 0x10, 0x4c, 0x65, 0x89, 0xcd, 0xfa, 0x49, 0x86, 0xb3, 0xb1, 0xe8,
    0x99, 0xa6, 0xfa, 0x3f, 0x64, 0xdf, 0x19, 0x02, 0xb4, 0x7a, 0xf4, 0xd4, 0xde, 0x00, 0x11, 0x9f]

def lonePayment : Txn := { payment with group := loneGroup }

def lonePaymentBytes : Bytes :=
  [0x84, 0xa3, 0x66, 0x65, 0x65, 0xcd, 0x03, 0xe8, 0xa3, 0x67, 0x72, 0x70, 0xc4, 0x20] ++ loneGroup ++
    [0xa3, 0x73, 0x6e, 0x64, 0xc4, 0x20] ++ List.replicate 32 1 ++
    [0xa4, 0x74, 0x79, 0x70, 0x65, 0xa3, 0x70, 0x61, 0x79]

/-- An environment that knows `payment`, with and without a group id. -/
noncomputable def loneEnv : Env :=
  { env with
    encode := fun t => if t = lonePayment then lonePaymentBytes else paymentBytes
    decodeTxn := fun b => if b = lonePaymentBytes then .ok (some lonePayment)
      else if b = paymentBytes then .ok (some payment) else .error "msgpack decode error"
    groupHash := fun txns => if txns = [payment] then .ok loneGroup else .error "only one group is known" }

def loneHex : String := hexEncode (txPrefix ++ lonePaymentBytes)

theorem lone_canonical (L : Language) : CanonicalEntry (L.dialect loneEnv).codec loneHex lonePayment := by
  refine ⟨lonePaymentBytes, unhex_hexEncode loneEnv _ L, ?_, ?_⟩
  · rw [L.dialect_sdk]
    rfl
  · rw [L.dialect_sdk]
    rfl

/-- A single payment may carry the hash of its own group; no SDK decodes it. -/
theorem lone_group_refused : SharesGroupId loneEnv.toAlgoSdk [lonePayment] ∧
    ∀ L : Language, CanonicalEntry (L.dialect loneEnv).codec loneHex lonePayment ∧
      ∀ txns, decodeCanonicalGroup (L.dialect loneEnv).codec [loneHex] ≠ .ok txns := by
  refine ⟨⟨loneGroup, rfl, by decide, by simp [lonePayment], ?_⟩, fun L => ⟨lone_canonical L, fun txns h => ?_⟩⟩
  · rfl
  · have hrefused : decodeCanonicalGroup (L.dialect loneEnv).codec [loneHex] =
        .error { text := "singleton transaction must not have a group ID" } := by
      cases L with
      | go => decide +kernel
      | python => decide +kernel
      | typescript => decide +kernel
    rw [hrefused] at h
    cases h

/-- The payment without a group id decodes from its encoding. -/
theorem decodeCanonicalGroup_payment : ProperlyGrouped loneEnv.toAlgoSdk [payment] ∧
    decodeCanonicalGroup (Language.go.dialect loneEnv).codec [hexEncode (loneEnv.encodeTxn payment)] =
      .ok [payment] := by
  have hencode : ∀ t, loneEnv.encode t ≠ [] := by
    intro t
    show (if t = lonePayment then lonePaymentBytes else paymentBytes) ≠ []
    split <;> simp [lonePaymentBytes, paymentBytes]
  have hdigest : ∀ body t, loneEnv.decodeTxn body = .ok (some t) → t.group = [] ∨ t.group.length = 32 := by
    intro body t h
    change (if body = lonePaymentBytes then Except.ok (some lonePayment)
      else if body = paymentBytes then .ok (some payment) else .error "msgpack decode error") = .ok (some t) at h
    split_ifs at h <;> cases h
    · exact Or.inr rfl
    · exact Or.inl rfl
  have hgroup : ProperlyGrouped loneEnv.toAlgoSdk [payment] := Or.inl ⟨payment, rfl, Or.inl rfl⟩
  obtain ⟨-, -, hinverts⟩ := decodeCanonicalGroup_exact loneEnv .go hencode fun _ => hdigest
  refine ⟨hgroup, hinverts [payment] (by decide) (by decide) hgroup fun t ht => ?_⟩
  rw [List.mem_singleton.mp ht]
  decide +kernel

end Demo

/-! ### The validation of a plan -/

section Plan

variable {codec : Codec} {original planned : List Txn} {view : ReportView}

/-- Position `i` passes when the report allows what changed; the result is the
increase of its fee. -/
theorem checkPosition_iff (hl : codec.Lawful) (hsdk : codec.sdk.Faithful) {changed : Bool} {fees : List ℤ} {i : ℕ}
    {o p : Txn} {delta : ℕ} : checkPosition codec changed fees i o p = .ok delta ↔
      PlannedFrom (changed = true) ((i : ℤ) ∈ fees) o p ∧ delta = p.fee - o.fee := by
  constructor
  · intro h
    have hfrom := checkPosition_ok hl hsdk h
    refine ⟨hfrom, ?_⟩
    simp only [checkPosition, hl.clone hsdk, bind_eq_ok, pure_eq_ok, Except.ok.injEq] at h
    obtain ⟨_, rfl, _, -, _, -, rfl⟩ := h
    by_cases hf : (i : ℤ) ∈ fees
    · rw [if_pos hf]
      cases changed <;> rfl
    · rw [if_neg hf, hfrom.fee hf]
      omega
  · rintro ⟨hfrom, rfl⟩
    obtain ⟨hsame, hgroup, hfee, hle⟩ := hfrom
    simp only [checkPosition, hl.clone hsdk, bind_eq_ok (α := Txn), seq_eq_ok, pure_eq_ok, failIf_ok, Except.ok.injEq,
      exists_eq_left', not_and, not_lt, not_not, hsdk.encodeTxn_inj]
    by_cases hc : changed = true <;> by_cases hf : (i : ℤ) ∈ fees
    · simp only [hc, hf, if_true, true_implies]
      exact ⟨hle, hsame.symm, trivial⟩
    · have hfee := hfee hf
      rw [hfee] at hsame
      simp only [hc, hf, if_true, if_false, false_implies, true_and]
      exact ⟨hsame.symm, by omega⟩
    · have hgroup := hgroup hc
      rw [hgroup] at hsame
      simp only [hc, hf, if_true, Bool.false_eq_true, if_false, true_implies]
      exact ⟨hle, hsame.symm, trivial⟩
    · have hfee := hfee hf
      rw [hgroup hc, hfee] at hsame
      simp only [hc, hf, Bool.false_eq_true, if_false, false_implies, true_and]
      exact ⟨hsame.symm, by omega⟩

/-- The increases of the fees, position by position. -/
def feeIncreases (original planned : List Txn) : List ℕ :=
  (original.zip planned).map fun p => p.2.fee - p.1.fee

theorem checkPositions_iff (hl : codec.Lawful) (hsdk : codec.sdk.Faithful) {changed : Bool} {fees : List ℤ}
    {deltas : List ℕ} :
    mapEach (fun i p => checkPosition codec changed fees i p.1 p.2) 0 (original.zip planned) = .ok deltas ↔
      (∀ (i : ℕ) o p, original[i]? = some o → planned[i]? = some p →
        PlannedFrom (changed = true) ((i : ℤ) ∈ fees) o p) ∧ deltas = feeIncreases original planned := by
  rw [mapEach_ok]
  simp only [checkPosition_iff hl hsdk, Nat.zero_add]
  constructor
  · rintro ⟨hlen, heach⟩
    constructor
    · intro i o p ho hp
      have hz : (original.zip planned)[i]? = some (o, p) := List.getElem?_zip_eq_some.mpr ⟨ho, hp⟩
      obtain ⟨hlt, -⟩ := List.getElem?_eq_some_iff.mp hz
      exact (heach i (o, p) _ hz (List.getElem?_eq_getElem (hlen ▸ hlt))).1
    · refine List.ext_getElem (by rw [feeIncreases, List.length_map, hlen]) fun i hi hi' => ?_
      have hz := List.getElem?_eq_getElem (hlen.symm ▸ hi : i < (original.zip planned).length)
      have hdelta := (heach i _ _ hz (List.getElem?_eq_getElem hi)).2
      simp only [feeIncreases, List.getElem_map, hdelta]
  · rintro ⟨hfrom, rfl⟩
    refine ⟨by rw [feeIncreases, List.length_map], fun i x y hx hy => ?_⟩
    rw [feeIncreases, List.getElem?_map, hx] at hy
    cases hy
    obtain ⟨ho, hp⟩ := List.getElem?_zip_eq_some.mp hx
    exact ⟨hfrom i x.1 x.2 ho hp, rfl⟩

/-- The list `fees_modified` names positions of the originals, each once. -/
structure FeesOk (view : ReportView) (n : ℕ) : Prop where
  indices : ∀ v ∈ view.feesModified, (view.feeIndex v).isSome = true
  nodup : view.fees.Nodup
  range : ∀ i ∈ view.fees, 0 ≤ i ∧ i < (n : ℤ)

theorem readFees_iff {n : ℕ} {claimed : List ℤ} :
    readFees view n = .ok claimed ↔ FeesOk view n ∧ claimed = view.fees.reverse := by
  rw [readFees_ok]
  constructor
  · rintro ⟨hsome, hnodup, hrange, hout⟩
    exact ⟨⟨hsome, hnodup, hrange⟩, hout⟩
  · rintro ⟨⟨hsome, hnodup, hrange⟩, hout⟩
    exact ⟨hsome, hnodup, hrange, hout⟩

theorem checkRegroup_iff {changed : Bool} {appended : ℕ} {fees : List ℤ} {u : Unit} :
    checkRegroup codec original changed appended fees = .ok u ↔
      (changed = true → appended = 0 → fees = [] → allGrouped codec original = .ok false) := by
  unfold checkRegroup
  by_cases h : changed = true ∧ appended = 0 ∧ fees = []
  · rw [if_pos h]
    simp only [bind_eq_ok, failIf_ok, h, true_implies]
    constructor
    · rintro ⟨all, hall, hfalse⟩
      rw [hall, Bool.eq_false_iff.mpr hfalse]
    · intro hall
      exact ⟨false, hall, Bool.false_ne_true⟩
  · rw [if_neg h]
    refine iff_of_true rfl fun h1 h2 h3 => absurd ⟨h1, h2, h3⟩ h

/-- The appended positions are dummies, in order. -/
def DummiesOk (codec : Codec) (original planned : List Txn) : Prop :=
  ∃ address, codec.sdk.lsigAddress guardedDummyProgram = .ok address ∧
    ∀ (k : ℕ) t, planned[original.length + k]? = some t → codec.noteRange k = .ok () ∧ isCanonicalDummy address k t

/-- A plan without a report. -/
theorem validatePlan_none_iff (hl : codec.Lawful) (hsdk : codec.sdk.Faithful) {f : String → SdkError} {u : Unit} :
    validateBoundedComponentPlan codec f original planned none = .ok u ↔
      planned = original ∧ DummiesOk codec original planned := by
  simp only [validateBoundedComponentPlan, bind_eq_ok (α := List ℕ), seq_eq_ok, failIf_ok, not_lt, not_not,
    checkPositions_iff hl hsdk, validateGuardedDummies_ok, List.getElem?_drop, Bool.false_eq_true, List.not_mem_nil]
  constructor
  · rintro ⟨hle, hnone, _, ⟨hfrom, -⟩, hdummies⟩
    refine ⟨List.ext_getElem (by omega) fun i hi hi' => ?_, hdummies⟩
    obtain ⟨hsame, hgroup, hfee, -⟩ :=
      hfrom i _ _ (List.getElem?_eq_getElem hi') (List.getElem?_eq_getElem hi)
    rw [hsame, hgroup not_false, hfee not_false]
  · rintro ⟨rfl, hdummies⟩
    refine ⟨le_rfl, Nat.sub_self _, _, ⟨fun i o p ho hp => ?_, rfl⟩, hdummies⟩
    cases Option.some.inj (ho.symm.trans hp)
    exact ⟨rfl, fun _ => rfl, fun _ => rfl, le_rfl⟩

/-- What the report must say, and the plan be, to pass. -/
structure ReportedPlan (codec : Codec) (original planned : List Txn) (view : ReportView) : Prop where
  length_le : original.length ≤ planned.length
  originalCount : view.originalCount = .ok (original.length : ℤ)
  finalCount : view.finalCount = .ok (planned.length : ℤ)
  dummiesAdded : view.dummiesAdded = .ok ((planned.length - original.length : ℕ) : ℤ)
  typed : view.typed = .ok ()
  fees : FeesOk view original.length
  regroup : view.groupIdChanged = true → planned.length = original.length → view.fees = [] →
    allGrouped codec original = .ok false
  positions : ∀ (i : ℕ) o p, original[i]? = some o → planned[i]? = some p →
    PlannedFrom (view.groupIdChanged = true) ((i : ℤ) ∈ view.fees) o p
  total : ∃ reported, view.totalFeesDelta = .ok reported ∧
    view.asTotal reported = ((feeIncreases original planned).foldl view.addFee 0 : ℕ)
  dummies : DummiesOk codec original planned

/-- A plan with a report. -/
theorem validatePlan_some_iff (hl : codec.Lawful) (hsdk : codec.sdk.Faithful) {f : String → SdkError} {u : Unit} :
    validateBoundedComponentPlan codec f original planned (some view) = .ok u ↔
      ReportedPlan codec original planned view := by
  have hcounts : ∀ {u : Unit}, checkCountsOf view original.length planned.length = .ok u ↔
      view.originalCount = .ok (original.length : ℤ) ∧ view.finalCount = .ok (planned.length : ℤ) ∧
        view.dummiesAdded = .ok ((planned.length - original.length : ℕ) : ℤ) := by
    intro u
    simp only [checkCountsOf, bind_eq_ok (α := ℤ), seq_eq_ok, failIf_ok, not_not]
    constructor
    · rintro ⟨_, h1, _, h2, _, h3, rfl, rfl, rfl⟩
      exact ⟨h1, h2, h3⟩
    · rintro ⟨h1, h2, h3⟩
      exact ⟨_, h1, _, h2, _, h3, rfl, rfl, rfl⟩
  simp only [validateBoundedComponentPlan, bind_eq_ok (α := List ℤ), bind_eq_ok (α := List ℕ), bind_eq_ok (α := ℤ),
    seq_eq_ok, failIf_ok, not_lt, not_not, hcounts, readFees_iff, checkRegroup_iff, checkPositions_iff hl hsdk,
    validateGuardedDummies_ok, List.getElem?_drop]
  constructor
  · rintro ⟨hle, ⟨h1, h2, h3⟩, h4, fees, ⟨h5, rfl⟩, h6, deltas, ⟨h7, rfl⟩, reported, h8, h9, h10⟩
    refine ⟨hle, h1, h2, h3, h4, h5, fun hc hn hf => ?_, fun i o p ho hp => ?_, ⟨reported, h8, h9⟩, h10⟩
    · exact h6 hc (by omega) (List.reverse_eq_nil_iff.mpr hf)
    · simpa only [List.mem_reverse] using h7 i o p ho hp
  · rintro ⟨hle, h1, h2, h3, h4, h5, h6, h7, ⟨reported, h8, h9⟩, h10⟩
    refine ⟨hle, ⟨h1, h2, h3⟩, h4, _, ⟨h5, rfl⟩, fun hc hn hf => ?_, _, ⟨fun i o p ho hp => ?_, rfl⟩, reported, h8,
      h9, h10⟩
    · exact h6 hc (by omega) (List.reverse_eq_nil_iff.mp hf)
    · simpa only [List.mem_reverse] using h7 i o p ho hp

end Plan

/-! ### An exact plan -/

/-- A mutation report, field by field. -/
structure PlanReport where
  originalCount : ℤ
  finalCount : ℤ
  dummiesAdded : ℤ
  groupIdChanged : Bool
  feesModified : List ℤ
  totalFeesDelta : ℤ

/-- The sum of the increases of the fees. -/
def totalIncrease (original planned : List Txn) : ℤ :=
  ((original.zip planned).map fun p => (p.2.fee : ℤ) - p.1.fee).sum

/-- What a report says of a plan. -/
structure PlanReport.Describes (r : PlanReport) (original planned : List Txn) : Prop where
  originalCount : r.originalCount = original.length
  finalCount : r.finalCount = planned.length
  dummiesAdded : r.dummiesAdded = (planned.length : ℤ) - original.length
  fees_nodup : r.feesModified.Nodup
  fees_range : ∀ i ∈ r.feesModified, 0 ≤ i ∧ i < (original.length : ℤ)
  positions : ∀ (i : ℕ) o p, original[i]? = some o → planned[i]? = some p →
    PlannedFrom (r.groupIdChanged = true) ((i : ℤ) ∈ r.feesModified) o p
  total : r.totalFeesDelta = totalIncrease original planned
  /-- A new group id alone is refused where every original has one. -/
  regroup : r.groupIdChanged = true → planned.length = original.length → r.feesModified = [] →
    ∃ o ∈ original, o.group = []

/-- A plan that differs from the originals as its report says, or not at all;
what it appends are dummies, whose offset is a byte. -/
structure ExactPlan (address : String) (original planned : List Txn) (report : Option PlanReport) : Prop where
  length_le : original.length ≤ planned.length
  unreported : report = none → planned.length = original.length ∧
    ∀ (i : ℕ) o p, original[i]? = some o → planned[i]? = some p → p = o
  reported : ∀ r, report = some r → r.Describes original planned
  dummies : ∀ (k : ℕ) t, planned[original.length + k]? = some t → k < 256 ∧ isCanonicalDummy address k t

/-- A member that is absent, or an integer. -/
def Json.IntMember (report : Json) (name : String) (n : ℤ) : Prop :=
  report.get? name = some (.int n) ∨ report.get? name = none ∧ n = 0

/-- The report `r` in JSON: each member that is there has its type. -/
structure PlanReport.Read (report : Json) (r : PlanReport) : Prop where
  originalCount : report.IntMember "original_count" r.originalCount
  finalCount : report.IntMember "final_count" r.finalCount
  dummiesAdded : report.IntMember "dummies_added" r.dummiesAdded
  groupIdChanged : report.get? "group_id_changed" = some (.bool r.groupIdChanged) ∨
    report.get? "group_id_changed" = none ∧ r.groupIdChanged = false
  feesModified : report.get? "fees_modified" = some (.arr (r.feesModified.map .int)) ∨
    (report.get? "fees_modified" = none ∨ report.get? "fees_modified" = some .null) ∧ r.feesModified = []
  totalFeesDelta : report.IntMember "total_fees_delta" r.totalFeesDelta

section Python

variable {env : Env} {original planned : List Txn} {report : Json} {r : PlanReport}

theorem boundedMutationInt_ok {name : String} {n m : ℤ} (h : report.IntMember name n) :
    Python.boundedMutationInt report name = .ok m ↔ n = m ∧ 0 ≤ n := by
  have hread : (report.get? name).getD (.int 0) = .int n := by
    rcases h with h | ⟨h, rfl⟩ <;> rw [h] <;> rfl
  unfold Python.boundedMutationInt
  rw [hread]
  dsimp only
  by_cases hneg : n < 0
  · simp only [if_pos hneg, signerError, reduceCtorEq, false_iff]
    omega
  · simp only [if_neg hneg, Except.ok.injEq]
    omega

theorem PlanReport.Read.changed (h : r.Read report) : (Python.reportView env report).groupIdChanged = r.groupIdChanged := by
  unfold Python.reportView
  rcases h.groupIdChanged with hc | ⟨hc, hfalse⟩
  · simp only [hc]
  · simp only [hc, hfalse]

theorem PlanReport.Read.listed (h : r.Read report) :
    (Python.reportView env report).feesModified = r.feesModified.map .int := by
  unfold Python.reportView
  rcases h.feesModified with hf | ⟨hf | hf, hnil⟩
  · simp only [hf]
  · simp only [hf, hnil, List.map_nil]
  · simp only [hf, hnil, List.map_nil]

theorem PlanReport.Read.fees (h : r.Read report) : (Python.reportView env report).fees = r.feesModified := by
  rw [ReportView.fees, h.listed, List.filterMap_map]
  exact List.filterMap_some

theorem PlanReport.Read.typed (h : r.Read report) : (Python.reportView env report).typed = .ok () := by
  unfold Python.reportView
  simp only [seq_eq_ok, failIf_ok, not_not, not_and]
  constructor
  · rcases h.groupIdChanged with hc | ⟨hc, -⟩ <;> rw [hc] <;> rfl
  · intro htruthy
    rcases h.feesModified with hf | ⟨hf | hf, -⟩
    · rw [hf]
      rfl
    · rw [hf] at htruthy
      cases htruthy
    · rw [hf] at htruthy
      cases htruthy

theorem PlanReport.Read.feesOk (h : r.Read report) {n : ℕ} : FeesOk (Python.reportView env report) n ↔
    r.feesModified.Nodup ∧ ∀ i ∈ r.feesModified, 0 ≤ i ∧ i < (n : ℤ) := by
  constructor
  · rintro ⟨-, hnodup, hrange⟩
    rw [h.fees] at hnodup hrange
    exact ⟨hnodup, hrange⟩
  · rintro ⟨hnodup, hrange⟩
    refine ⟨fun v hv => ?_, h.fees.symm ▸ hnodup, h.fees.symm ▸ hrange⟩
    rw [h.listed] at hv
    obtain ⟨i, -, rfl⟩ := List.mem_map.mp hv
    rfl

theorem allGrouped_python : ∀ original : List Txn,
    allGrouped (Python.codec env) original = .ok false ↔ ∃ o ∈ original, o.group = []
  | [] => by simp [allGrouped]
  | o :: original => by
    have hstep : allGrouped (Python.codec env) (o :: original) =
        if (o.group != []) = true then allGrouped (Python.codec env) original else .ok false := rfl
    rw [hstep]
    by_cases h : o.group = []
    · simp [h]
    · have hne : (o.group != []) = true := by simpa using h
      rw [if_pos hne, allGrouped_python original]
      simp [h]

/-- Where no fee decreases, the increases add up to the difference. -/
theorem sum_feeIncreases (h : ∀ (i : ℕ) o p, original[i]? = some o → planned[i]? = some p → o.fee ≤ p.fee) :
    ((feeIncreases original planned).sum : ℤ) = totalIncrease original planned := by
  unfold feeIncreases totalIncrease
  rw [Nat.cast_list_sum, List.map_map]
  refine congrArg List.sum (List.map_congr_left fun p hp => ?_)
  obtain ⟨i, hi⟩ := List.mem_iff_getElem?.mp hp
  obtain ⟨ho, hq⟩ := List.getElem?_zip_eq_some.mp hi
  exact Int.ofNat_sub (h i p.1 p.2 ho hq)

/-- What Python's reading of a report asks, in the words of `Describes`. -/
theorem reportedPlan_iff (h : r.Read report) :
    ReportedPlan (Python.codec env) original planned (Python.reportView env report) ↔
      original.length ≤ planned.length ∧ r.Describes original planned ∧
        DummiesOk (Python.codec env) original planned := by
  have hcount : ∀ {name : String} {n : ℤ} {m : ℕ}, report.IntMember name n →
      (Python.boundedMutationInt report name = .ok (m : ℤ) ↔ n = m) := by
    intro name n m hmember
    rw [boundedMutationInt_ok hmember]
    omega
  have htotal : ∀ (hle : ∀ (i : ℕ) o p, original[i]? = some o → planned[i]? = some p → o.fee ≤ p.fee),
      (∃ reported, Python.boundedMutationInt report "total_fees_delta" = .ok reported ∧
        reported = ((feeIncreases original planned).foldl (fun a b => a + b) 0 : ℕ)) ↔
      r.totalFeesDelta = totalIncrease original planned := by
    intro hle
    rw [← List.sum_eq_foldl_nat, ← sum_feeIncreases hle]
    constructor
    · rintro ⟨reported, hread, rfl⟩
      exact (hcount h.totalFeesDelta).mp hread
    · intro htotal
      exact ⟨_, (hcount h.totalFeesDelta).mpr htotal, rfl⟩
  constructor
  · rintro ⟨hle, h1, h2, h3, -, h5, h6, h7, h8, h9⟩
    rw [h.changed, h.fees] at h6 h7
    obtain ⟨hnodup, hrange⟩ := h.feesOk.mp h5
    refine ⟨hle, ⟨(hcount h.originalCount).mp h1, (hcount h.finalCount).mp h2, ?_, hnodup, hrange, h7,
      (htotal fun i o p ho hp => (h7 i o p ho hp).fee_le).mp h8, fun hc hn hf => ?_⟩, h9⟩
    · rw [(hcount h.dummiesAdded).mp h3]
      omega
    · exact (allGrouped_python original).mp (h6 hc hn hf)
  · rintro ⟨hle, ⟨h1, h2, h3, hnodup, hrange, h7, h8, h6⟩, h9⟩
    refine ⟨hle, (hcount h.originalCount).mpr h1, (hcount h.finalCount).mpr h2, (hcount h.dummiesAdded).mpr ?_,
      h.typed, h.feesOk.mpr ⟨hnodup, hrange⟩, ?_, ?_, (htotal fun i o p ho hp => (h7 i o p ho hp).fee_le).mpr h8, h9⟩
    · rw [h3]
      omega
    · rw [h.changed, h.fees]
      exact fun hc hn hf => (allGrouped_python original).mpr (h6 hc hn hf)
    · rw [h.changed, h.fees]
      exact h7

end Python

/-- **Python accepts exactly the plans their reports describe.** -/
theorem plan_exact (env : Env) (hsdk : env.Faithful) (address : String)
    (haddress : env.lsigAddress guardedDummyProgram = .ok address) (original planned : List Txn) :
    (validateBoundedComponentPlan (Python.codec env) Python.addressFailure original planned none = .ok () ↔
      ExactPlan address original planned none) ∧
    ∀ report r, PlanReport.Read report r →
      (validateBoundedComponentPlan (Python.codec env) Python.addressFailure original planned
          (some (Python.reportView env report)) = .ok () ↔
        ExactPlan address original planned (some r)) := by
  have hl := Python.lawful_codec env
  have hdummies : DummiesOk (Python.codec env) original planned ↔
      ∀ (k : ℕ) t, planned[original.length + k]? = some t → k < 256 ∧ isCanonicalDummy address k t := by
    have hrange : ∀ k, (Python.codec env).noteRange k = .ok () ↔ k < 256 := by
      intro k
      exact failIf_ok.trans not_le
    simp only [DummiesOk, hrange]
    constructor
    · rintro ⟨address', haddress', h⟩
      cases Except.ok.inj (haddress'.symm.trans haddress)
      exact h
    · exact fun h => ⟨address, haddress, h⟩
  constructor
  · rw [validatePlan_none_iff hl hsdk, hdummies]
    constructor
    · rintro ⟨rfl, h⟩
      refine ⟨le_rfl, fun _ => ⟨rfl, fun i o p ho hp => ?_⟩, by simp, h⟩
      exact Option.some.inj (hp.symm.trans ho)
    · rintro ⟨-, hnone, -, h⟩
      obtain ⟨hlen, hsame⟩ := hnone rfl
      refine ⟨List.ext_getElem hlen fun i hi hi' => ?_, h⟩
      exact hsame i _ _ (List.getElem?_eq_getElem hi') (List.getElem?_eq_getElem hi)
  · intro report r hr
    rw [validatePlan_some_iff hl hsdk, reportedPlan_iff hr, hdummies]
    constructor
    · rintro ⟨hle, hdescribes, h⟩
      exact ⟨hle, by simp, fun r' hr' => Option.some.inj hr' ▸ hdescribes, h⟩
    · rintro ⟨hle, -, hdescribes, h⟩
      exact ⟨hle, hdescribes r rfl, h⟩

namespace Demo

def raisedPayment : Txn := { lonePayment with fee := 2000 }

/-- One position, with a fee raised by 1000. -/
def raisedReport : PlanReport where
  originalCount := 1
  finalCount := 1
  dummiesAdded := 0
  groupIdChanged := false
  feesModified := [0]
  totalFeesDelta := 1000

def raisedJson : Json :=
  .obj [("original_count", .int 1), ("final_count", .int 1), ("fees_modified", .arr [.int 0]),
    ("total_fees_delta", .int 1000)]

theorem read_raised : raisedReport.Read raisedJson where
  originalCount := Or.inl rfl
  finalCount := Or.inl rfl
  dummiesAdded := Or.inr ⟨rfl, rfl⟩
  groupIdChanged := Or.inr ⟨rfl, rfl⟩
  feesModified := Or.inl rfl
  totalFeesDelta := Or.inl rfl

theorem raised_from {i : ℕ} {o p : Txn} (ho : [lonePayment][i]? = some o) (hp : [raisedPayment][i]? = some p) :
    PlannedFrom False ((i : ℤ) ∈ [0]) o p := by
  cases i with
  | zero =>
    cases ho
    cases hp
    exact ⟨rfl, fun _ => rfl, fun h => absurd (List.mem_singleton.mpr rfl) h, by decide⟩
  | succ i => cases ho

theorem raised_no_dummies {k : ℕ} {t : Txn} (h : [raisedPayment][[lonePayment].length + k]? = some t) : False := by
  rw [List.getElem?_eq_none (by simp)] at h
  cases h

def dummyAddress : String := "E6A65LPVDVC6GBVLJGASISP5CB2E7PHSG2UO4TDFMVRL4JQ7Q7FMKKKRNI"

theorem plan_exact_raised : validateBoundedComponentPlan (Python.codec env) Python.addressFailure [lonePayment]
    [raisedPayment] (some (Python.reportView env raisedJson)) = .ok () := by
  obtain ⟨-, hreported⟩ := plan_exact env faithful dummyAddress rfl [lonePayment] [raisedPayment]
  refine (hreported raisedJson raisedReport read_raised).mpr ⟨le_rfl, by simp, fun r hr => ?_, fun k t h => ?_⟩
  · cases hr
    refine ⟨rfl, rfl, rfl, by decide, by decide, fun i o p ho hp => ?_, by decide, by simp [raisedReport]⟩
    simpa [raisedReport] using raised_from ho hp
  · exact (raised_no_dummies h).elim

end Demo

/-! ### Regrouping -/

section Regrouping

variable {env : Env} {L : Language} {original planned : List Txn} {view : Option ReportView}

/-- Some original position is planned with another group id. -/
def Regrouped (original planned : List Txn) : Prop :=
  ∃ (i : ℕ) (o p : Txn), original[i]? = some o ∧ planned[i]? = some p ∧ p.group ≠ o.group

/-- Some original position is planned with a higher fee. -/
def FeeRaised (original planned : List Txn) : Prop :=
  ∃ (i : ℕ) (o p : Txn), original[i]? = some o ∧ planned[i]? = some p ∧ o.fee < p.fee

/-- The report lists positions in `fees_modified`, and none of them has another
fee than before. -/
def ListsIdleFees (view : Option ReportView) (original planned : List Txn) : Prop :=
  listedFees view ≠ [] ∧ ∀ (i : ℕ) o p, (i : ℤ) ∈ listedFees view → original[i]? = some o → planned[i]? = some p →
    p.fee = o.fee

/-- A transaction with a group id counts as grouped, where the code can tell. -/
theorem allGrouped_ne_false : ∀ {original : List Txn}, (∀ o ∈ original, noGroupId o.group = false) →
    allGrouped (L.dialect env).codec original ≠ .ok false
  | [], _ => by simp [allGrouped]
  | o :: original, h => by
    have ho := h o (List.mem_cons_self ..)
    have hgrouped : ∀ b, (L.dialect env).codec.grouped o = .ok b → b = true := by
      intro b hb
      cases L with
      | go =>
        cases hb
        rw [ho]
        rfl
      | python =>
        cases hb
        refine bne_iff_ne.mpr fun hnil => ?_
        rw [hnil] at ho
        cases ho
      | typescript =>
        obtain ⟨g, hg, hb⟩ := bind_eq_ok.mp hb
        cases hb
        unfold TypeScript.groupIdBytes at hg
        rw [if_neg (by simp [ho])] at hg
        split at hg
        · cases hg
        · cases hg
          rfl
    intro hfalse
    obtain ⟨b, hb, hrest⟩ := bind_eq_ok.mp hfalse
    rw [hgrouped b hb, if_pos rfl] at hrest
    exact allGrouped_ne_false (fun o' ho' => h o' (List.mem_cons_of_mem _ ho')) hrest

/-- An accepted plan changes a fee only where the report lists it. -/
theorem listed_of_raised (hsdk : env.Faithful)
    (h : validateBoundedComponentPlan (L.dialect env).codec (L.dialect env).addressFailure original planned view =
      .ok ()) {i : ℕ} {o p : Txn} (ho : original[i]? = some o) (hp : planned[i]? = some p) (hraised : o.fee < p.fee) :
    (i : ℤ) ∈ listedFees view := by
  have hok := validateBoundedComponentPlan_ok (L.lawful_dialect env).codec (by rw [L.dialect_sdk]; exact hsdk) h
  by_contra hunlisted
  have hsame := (hok.positions i o p ho hp).fee hunlisted
  omega

/-- A new group id alone is refused. -/
theorem regroup_refused (hsdk : env.Faithful) (hgrouped : ∀ o ∈ original, noGroupId o.group = false)
    (h : validateBoundedComponentPlan (L.dialect env).codec (L.dialect env).addressFailure original planned view =
      .ok ()) (hregrouped : Regrouped original planned) (hlen : planned.length = original.length) :
    listedFees view ≠ [] := by
  intro hnone
  have hl := (L.lawful_dialect env).codec
  have hfaithful : (L.dialect env).codec.sdk.Faithful := by
    rw [L.dialect_sdk]
    exact hsdk
  obtain ⟨i, o, p, ho, hp, hne⟩ := hregrouped
  have hfrom := (validateBoundedComponentPlan_ok hl hfaithful h).positions i o p ho hp
  cases view with
  | none => exact hne (hfrom.group (by simp [regroups]))
  | some view =>
    have hreported := (validatePlan_some_iff hl hfaithful).mp h
    by_cases hchanged : view.groupIdChanged = true
    · exact allGrouped_ne_false hgrouped (hreported.regroup hchanged hlen hnone)
    · exact hne (hfrom.group hchanged)

end Regrouping

/-- **A new group id needs another mutation, or an idle entry in
`fees_modified`.** Of a plan whose originals all have group ids, accepted by
any of the three SDKs, exactly those break the rule that append nothing and
list only positions whose fee stays as it was. -/
theorem regrouping_needs_mutation (env : Env) (L : Language) (hsdk : env.Faithful) (original planned : List Txn)
    (mutations : Option Json) (hgrouped : ∀ o ∈ original, noGroupId o.group = false)
    (h : validateBoundedComponentPlan (L.dialect env).codec (L.dialect env).addressFailure original planned
      ((L.dialect env).planView mutations) = .ok ()) :
    (Regrouped original planned → original.length < planned.length ∨ FeeRaised original planned) ↔
      ¬ (Regrouped original planned ∧ planned.length = original.length ∧
        ListsIdleFees ((L.dialect env).planView mutations) original planned) := by
  have hok := validateBoundedComponentPlan_ok (L.lawful_dialect env).codec (by rw [L.dialect_sdk]; exact hsdk) h
  have hle := hok.length_le
  constructor
  · rintro hrule ⟨hregrouped, hlen, -, hidle⟩
    rcases hrule hregrouped with happended | ⟨i, o, p, ho, hp, hraised⟩
    · omega
    · have hsame := hidle i o p (listed_of_raised hsdk h ho hp hraised) ho hp
      omega
  · intro hnot hregrouped
    by_cases hlen : planned.length = original.length
    · right
      by_contra hraised
      refine hnot ⟨hregrouped, hlen, regroup_refused hsdk hgrouped h hregrouped hlen, fun i o p _ ho hp => ?_⟩
      have hmono := (hok.positions i o p ho hp).fee_le
      by_contra hne
      exact hraised ⟨i, o, p, ho, hp, by omega⟩
    · left
      omega

namespace Demo

/-- The group id of `payment` and `notedPayment` together. -/
def twinGroup : Bytes :=
  [0x10, 0x27, 0xc4, 0xfd, 0xe0, 0x6e, 0x47, 0xd6, 0xa6, 0x82, 0x1a, 0xeb, 0xbe, 0xe4, 0x22, 0x53,
    0x50, 0xe3, 0x12, 0x66, 0x28, 0x5b, 0xc1, 0xef, 0x2d, 0x12, 0xff, 0x2c, 0x9f, 0x02, 0x1b, 0x8f]

def notedPayment : Txn := { payment with note := [1] }

/-- The two payments with a group id. -/
def twins (group : Bytes) : List Txn := [{ payment with group := group }, { notedPayment with group := group }]

/-- The encoding of a member of `twins`. -/
def twinBytes (group : Bytes) (noted : Bool) : Bytes :=
  [if noted then 0x85 else 0x84, 0xa3, 0x66, 0x65, 0x65, 0xcd, 0x03, 0xe8, 0xa3, 0x67, 0x72, 0x70, 0xc4, 0x20] ++
    group ++ (if noted then [0xa4, 0x6e, 0x6f, 0x74, 0x65, 0xc4, 0x01, 0x01] else []) ++
    [0xa3, 0x73, 0x6e, 0x64, 0xc4, 0x20] ++ List.replicate 32 1 ++ [0xa4, 0x74, 0x79, 0x70, 0x65, 0xa3, 0x70, 0x61, 0x79]

/-- An environment that knows the two payments in both groups. -/
noncomputable def twinEnv : Env :=
  { env with
    encode := fun t => twinBytes t.group (t.note != [])
    decodeTxn := fun b => match (twins loneGroup ++ twins twinGroup).find? fun t => b == twinBytes t.group (t.note != []) with
      | some t => .ok (some t)
      | none => .error "msgpack decode error" }

/-- The planner reports a fee mutation at position 0, whose fee stays the same. -/
def idleJson : Json :=
  .obj [("original_count", .int 2), ("final_count", .int 2), ("group_id_changed", .bool true),
    ("fees_modified", .arr [.int 0])]

/-- All three SDKs accept a new group id for two payments that keep their fees. -/
theorem regrouped_idle : (∀ o ∈ twins loneGroup, noGroupId o.group = false) ∧
    (∀ L : Language, validateBoundedComponentPlan (L.dialect twinEnv).codec (L.dialect twinEnv).addressFailure
      (twins loneGroup) (twins twinGroup) ((L.dialect twinEnv).planView (some idleJson)) = .ok ()) ∧
    Regrouped (twins loneGroup) (twins twinGroup) ∧ ¬ (twins loneGroup).length < (twins twinGroup).length ∧
    ¬ FeeRaised (twins loneGroup) (twins twinGroup) := by
  refine ⟨by decide, fun L => ?_, ⟨0, _, _, rfl, rfl, by decide⟩, by decide, ?_⟩
  · cases L with
    | go => decide +kernel
    | python => decide +kernel
    | typescript => decide +kernel
  · rintro ⟨i, o, p, ho, hp, hraised⟩
    have hfees : ∀ group, ∀ t ∈ twins group, t.fee = 1000 := by
      intro group t ht
      rcases List.mem_cons.mp ht with rfl | ht
      · rfl
      · rw [List.mem_singleton.mp ht]
        rfl
    have ho := hfees _ o (List.mem_of_getElem? ho)
    have hp := hfees _ p (List.mem_of_getElem? hp)
    omega

theorem raised_accepted {view : ReportView} (L : Language) (hcount : view.originalCount = .ok 1)
    (hfinal : view.finalCount = .ok 1) (hdummies : view.dummiesAdded = .ok 0) (htyped : view.typed = .ok ())
    (hfees : view.fees = [0]) (hindices : ∀ v ∈ view.feesModified, (view.feeIndex v).isSome = true)
    (hchanged : view.groupIdChanged = false)
    (htotal : ∃ reported, view.totalFeesDelta = .ok reported ∧ view.asTotal reported = (view.addFee 0 1000 : ℕ)) :
    validateBoundedComponentPlan (L.dialect env).codec (L.dialect env).addressFailure [lonePayment] [raisedPayment]
      (some view) = .ok () := by
  have hsdk : (L.dialect env).codec.sdk.Faithful := by
    rw [L.dialect_sdk]
    exact faithful
  refine (validatePlan_some_iff (L.lawful_dialect env).codec hsdk).mpr ⟨le_rfl, hcount, hfinal, hdummies, htyped,
    ⟨hindices, by simp [hfees], by simp [hfees]⟩, by simp [hfees], fun i o p ho hp => ?_, htotal, dummyAddress, ?_,
    fun k t h => (raised_no_dummies h).elim⟩
  · rw [hfees, hchanged]
    simpa using raised_from ho hp
  · rw [L.dialect_sdk]
    rfl

theorem regrouping_needs_mutation_raised : ¬ (Regrouped [lonePayment] [raisedPayment] ∧
    [raisedPayment].length = [lonePayment].length ∧
    ListsIdleFees ((Language.python.dialect env).planView (some raisedJson)) [lonePayment] [raisedPayment]) := by
  have haccepted : validateBoundedComponentPlan (Language.python.dialect env).codec
      (Language.python.dialect env).addressFailure [lonePayment] [raisedPayment]
      ((Language.python.dialect env).planView (some raisedJson)) = .ok () :=
    raised_accepted .python rfl rfl rfl rfl rfl (by decide) rfl ⟨1000, rfl, rfl⟩
  refine (regrouping_needs_mutation env .python faithful [lonePayment] [raisedPayment] (some raisedJson)
    (by decide) haccepted).mp fun _ => Or.inr ?_
  exact ⟨0, lonePayment, raisedPayment, rfl, rfl, by decide⟩

end Demo

/-! ### Fees in 64 bits -/

def feeAt (txns : List Txn) (i : ℤ) : ℤ := ((txns[i.toNat]?).map fun t => (t.fee : ℤ)).getD 0

/-- The sum of the increases at the listed positions. -/
def reportedIncrease (fees : List ℤ) (original planned : List Txn) : ℤ :=
  (fees.map fun i => feeAt planned i - feeAt original i).sum

theorem totalIncrease_eq_range {original planned : List Txn} (hle : original.length ≤ planned.length) :
    totalIncrease original planned =
      ∑ i ∈ Finset.range original.length, (feeAt planned i - feeAt original i) := by
  have hmap : (original.zip planned).map (fun p => (p.2.fee : ℤ) - p.1.fee) =
      (List.range original.length).map fun i : ℕ => feeAt planned i - feeAt original i := by
    refine List.ext_getElem (by simp [hle]) fun i hi hi' => ?_
    rw [List.length_map, List.length_range] at hi'
    have hp : planned[i]? = some planned[i] := List.getElem?_eq_getElem (by omega)
    have ho : original[i]? = some original[i] := List.getElem?_eq_getElem hi'
    simp [feeAt, hp, ho]
  have hset : (List.range original.length).toFinset = Finset.range original.length := by
    ext i
    rw [List.mem_toFinset, List.mem_range, Finset.mem_range]
  rw [totalIncrease, hmap, ← List.sum_toFinset _ List.nodup_range, hset]

/-- Where only listed positions change their fees, the listed increases are all. -/
theorem reportedIncrease_eq {original planned : List Txn} {fees : List ℤ} (hle : original.length ≤ planned.length)
    (hnodup : fees.Nodup) (hrange : ∀ i ∈ fees, 0 ≤ i ∧ i < (original.length : ℤ))
    (hunlisted : ∀ (i : ℕ) o p, original[i]? = some o → planned[i]? = some p → (i : ℤ) ∉ fees → p.fee = o.fee) :
    reportedIncrease fees original planned = totalIncrease original planned := by
  have hlisted : reportedIncrease fees original planned =
      ((fees.map Int.toNat).map fun i : ℕ => feeAt planned i - feeAt original i).sum := by
    rw [List.map_map]
    refine congrArg List.sum (List.map_congr_left fun i hi => ?_)
    rw [Function.comp_apply, Int.toNat_of_nonneg (hrange i hi).1]
  have hnodup' : (fees.map Int.toNat).Nodup := by
    refine hnodup.map_on fun i hi j hj hij => ?_
    have := (hrange i hi).1
    have := (hrange j hj).1
    omega
  rw [hlisted, totalIncrease_eq_range hle, ← List.sum_toFinset _ hnodup']
  refine Finset.sum_subset (fun i hi => ?_) fun i hi hnot => ?_
  · obtain ⟨j, hj, rfl⟩ := List.mem_map.mp (List.mem_toFinset.mp hi)
    have := hrange j hj
    exact Finset.mem_range.mpr (by omega)
  · rw [Finset.mem_range] at hi
    have hp : planned[i]? = some planned[i] := List.getElem?_eq_getElem (by omega)
    have ho : original[i]? = some original[i] := List.getElem?_eq_getElem hi
    have hfee := hunlisted i _ _ ho hp fun hmem => hnot (List.mem_toFinset.mpr (List.mem_map.mpr ⟨i, hmem, rfl⟩))
    simp [feeAt, hp, ho, hfee]

/-- A sum that wraps at every step is the sum, wrapped. -/
theorem foldl_wrapped : ∀ (deltas : List ℕ) (start : ℕ),
    deltas.foldl (fun a b => (a + b) % 2 ^ 64) (start % 2 ^ 64) = (start + deltas.sum) % 2 ^ 64
  | [], start => by simp
  | delta :: deltas, start => by
    rw [List.foldl_cons, Nat.mod_add_mod, foldl_wrapped deltas (start + delta), List.sum_cons, Nat.add_assoc]

theorem Go.fees_reportView (r : Go.MutationReport) : (Go.reportView r).fees = r.feesModified := by
  show (r.feesModified.map Json.int).filterMap Json.integer? = r.feesModified
  rw [List.filterMap_map]
  exact List.filterMap_some

/-- **Go's fee accounting is exact below 2^63.** Of the plans Go accepts,
exactly those report the sum of the listed increases whose sum is below 2^63. -/
theorem total_fees_exact (env : Env) (hsdk : env.Faithful) (original planned : List Txn) (r : Go.MutationReport)
    (hdelta : -2 ^ 63 ≤ r.totalFeesDelta ∧ r.totalFeesDelta < 2 ^ 63)
    (h : validateBoundedComponentPlan (Go.codec env) Go.addressFailure original planned (some (Go.reportView r)) =
      .ok ()) :
    0 ≤ r.totalFeesDelta ∧ r.totalFeesDelta = reportedIncrease r.feesModified original planned ↔
      reportedIncrease r.feesModified original planned < 2 ^ 63 := by
  have hreported := (validatePlan_some_iff (Go.lawful_codec env) hsdk).mp h
  obtain ⟨-, hnodup, hrange⟩ := hreported.fees
  have hpositions := hreported.positions
  rw [Go.fees_reportView] at hnodup hrange hpositions
  obtain ⟨_, hread, htotal⟩ := hreported.total
  cases hread
  have hsum : ((feeIncreases original planned).sum : ℤ) = reportedIncrease r.feesModified original planned := by
    rw [sum_feeIncreases fun i o p ho hp => (hpositions i o p ho hp).fee_le]
    refine (reportedIncrease_eq hreported.length_le hnodup hrange fun i o p ho hp hnot => ?_).symm
    exact (hpositions i o p ho hp).fee hnot
  have hwrapped : r.totalFeesDelta % 2 ^ 64 = reportedIncrease r.feesModified original planned % 2 ^ 64 := by
    have hfold := foldl_wrapped (feeIncreases original planned) 0
    rw [Nat.zero_mod, Nat.zero_add] at hfold
    rw [← hsum]
    refine htotal.trans ?_
    exact_mod_cast congrArg (Nat.cast : ℕ → ℤ) hfold
  have hpos : 0 ≤ reportedIncrease r.feesModified original planned := hsum ▸ Int.natCast_nonneg _
  omega

namespace Demo

/-- `payment` with another fee. -/
def payingFee (fee : ℕ) : Txn := { payment with fee := fee }

/-- An environment that encodes a payment with no fee, and with the largest. -/
noncomputable def feeEnv : Env :=
  { env with
    encode := fun t => (if t.fee = 0 then [0x82]
        else [0x83, 0xa3, 0x66, 0x65, 0x65, 0xcf] ++ List.replicate 8 0xff) ++
      [0xa3, 0x73, 0x6e, 0x64, 0xc4, 0x20] ++ List.replicate 32 1 ++
      [0xa4, 0x74, 0x79, 0x70, 0x65, 0xa3, 0x70, 0x61, 0x79] }

/-- A delta of -1, which as `uint64` is the largest fee. -/
def wrappedReport : Go.MutationReport where
  originalCount := 1
  finalCount := 1
  feesModified := [0]
  totalFeesDelta := -1

/-- Go accepts a negative total for a fee raised from nothing to 2^64 - 1. -/
theorem total_fees_wrapped : (-2 ^ 63 ≤ wrappedReport.totalFeesDelta ∧ wrappedReport.totalFeesDelta < 2 ^ 63) ∧
    (payingFee 0).fee < 2 ^ 64 ∧ (payingFee (2 ^ 64 - 1)).fee < 2 ^ 64 ∧
    validateBoundedComponentPlan (Go.codec feeEnv) Go.addressFailure [payingFee 0] [payingFee (2 ^ 64 - 1)]
      (some (Go.reportView wrappedReport)) = .ok () ∧
    ¬ (0 ≤ wrappedReport.totalFeesDelta ∧ wrappedReport.totalFeesDelta =
      reportedIncrease wrappedReport.feesModified [payingFee 0] [payingFee (2 ^ 64 - 1)]) := by
  refine ⟨by decide, by decide, by decide, by decide +kernel, by decide⟩

/-- The report of `raisedJson` in Go. -/
def goRaisedReport : Go.MutationReport where
  originalCount := 1
  finalCount := 1
  feesModified := [0]
  totalFeesDelta := 1000

theorem total_fees_exact_raised : goRaisedReport.totalFeesDelta =
    reportedIncrease goRaisedReport.feesModified [lonePayment] [raisedPayment] := by
  have haccepted : validateBoundedComponentPlan (Go.codec env) Go.addressFailure [lonePayment] [raisedPayment]
      (some (Go.reportView goRaisedReport)) = .ok () :=
    raised_accepted .go rfl rfl rfl rfl rfl (by decide) rfl ⟨1000, rfl, rfl⟩
  exact ((total_fees_exact env faithful [lonePayment] [raisedPayment] goRaisedReport (by decide) haccepted).mpr
    (by decide)).2

end Demo

end AplaneSdk
