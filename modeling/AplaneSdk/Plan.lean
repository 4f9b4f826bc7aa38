/-
# The plan: decoding the canonical group and checking the planner's mutations

`decodeCanonicalGroup` turns the planner's bytes into transactions and anchors
their group id; `validateBoundedComponentPlan` lets through only mutations
that the report declares; `signedTxnMatchesCanonical` pins a signed
transaction to the bytes it must be a signature of. The three SDKs make the
same tests and report them in the same words; a `Codec` says how a language
reads hexadecimal and group ids, a `ReportView` how it reads the report.

Key definitions: `Codec`, `decodeCanonicalGroup`, `ReportView`,
`validateBoundedComponentPlan`, `validateBoundedTargetFees`,
`verifyAssembledGroup`, `PlannedFrom`.
Key theorems: `decodeCanonicalGroup_ok`, `validateBoundedComponentPlan_ok`,
`verifyAssembledGroup_ok`.
-/
import AplaneSdk.Requests

namespace AplaneSdk

open Checks

/-! ### Canonical bytes -/

/-- How a language reads canonical bytes. -/
structure Codec where
  sdk : AlgoSdk
  unhex : String → Option Bytes
  /-- The complaint about entry `i` when it is no hexadecimal. -/
  hexFailure : ℕ → String → SdkError
  /-- The group id of a transaction, if it has one. -/
  groupId : Txn → Except SdkError (Option Bytes)
  hashFailure : String → SdkError
  /-- `cloneTransaction` of TypeScript; a copy elsewhere. -/
  clone : Txn → Except SdkError Txn
  /-- Whether an original transaction counts as grouped. -/
  grouped : Txn → Except SdkError Bool
  /-- Whether an offset is a byte: Go converts it, a comparison in TypeScript
  never holds from 256 on, and Python's `bytes([i])` fails there. -/
  noteRange : ℕ → Except SdkError Unit

def Codec.unhexEntry (codec : Codec) (i : ℕ) (encoded : String) : Except SdkError Bytes :=
  match codec.unhex encoded with
  | some raw => .ok raw
  | none => .error (codec.hexFailure i encoded)

def Codec.decodeBody (codec : Codec) (i : ℕ) (body : Bytes) : Except SdkError Txn :=
  match codec.sdk.decodeTxn body with
  | .ok (some txn) => .ok txn
  | .ok none => signerError s!"transaction {i} did not decode as a transaction"
  | .error why => signerError s!"transaction {i} is invalid: {why}"

/-- One entry of a canonical group. -/
def decodeEntry (codec : Codec) (i : ℕ) (encoded : String) : Except SdkError Txn := do
  let raw ← codec.unhexEntry i encoded
  failIf (raw.length < 3 ∨ raw.take 2 ≠ txPrefix) { text := s!"transaction {i} is missing TX prefix" }
  let txn ← codec.decodeBody i (raw.drop 2)
  failIf (raw ≠ codec.sdk.encodeTxn txn) { text := s!"transaction {i} bytes are not canonical" }
  pure txn

/-- Members from the second on carry the group id of the first. -/
def checkMemberGroup (codec : Codec) (groupId : Bytes) (i : ℕ) (txn : Txn) : Except SdkError Unit := do
  let current ← codec.groupId txn
  failIf (current = none) { text := s!"group transaction {i} has empty group ID" }
  failIf (current ≠ some groupId) { text := s!"group transaction {i} has divergent group ID" }

/-- The group id of a decoded group: none on a singleton, else one for all
members that is the hash of the group. -/
def checkGroupIds (codec : Codec) : List Txn → Except SdkError Unit
  | [] => .ok ()
  | [txn] => do
    let current ← codec.groupId txn
    failIf (current ≠ none) { text := "singleton transaction must not have a group ID" }
  | first :: rest => do
    let groupId ← codec.groupId first
    match groupId with
    | none => signerError "group transaction 0 has empty group ID"
    | some groupId => do
      forEach (checkMemberGroup codec groupId) 1 rest
      match codec.sdk.groupHash ((first :: rest).map Txn.clearGroup) with
      | .error why => .error (codec.hashFailure why)
      | .ok computed => failIf (computed ≠ groupId) { text := "group ID does not match decoded transactions" }

/-- `decodeCanonicalGroup`. -/
def decodeCanonicalGroup (codec : Codec) (group : List String) : Except SdkError (List Txn) := do
  failIf (group = []) { text := "canonical group is empty" }
  failIf (maxTxGroupSize < group.length)
    { text := s!"canonical group size {group.length} exceeds max {maxTxGroupSize}" }
  let txns ← mapEach (decodeEntry codec) 0 group
  checkGroupIds codec txns
  pure txns

/-! ### Budget dummies -/

def dummyText (i : ℕ) : String := s!"signer-appended transaction {i} is not a canonical guarded budget dummy"

/-- Dummy number `i`, in the order of the tests. -/
def checkDummy (codec : Codec) (address : String) (i : ℕ) (txn : Txn) : Except SdkError Unit := do
  failIf (txn.type ≠ .payment ∨ txn.sender ≠ address ∨ txn.receiver ≠ address ∨ txn.amount ≠ 0 ∨ txn.fee ≠ 0)
    { text := dummyText i }
  codec.noteRange i
  failIf (txn.note ≠ [UInt8.ofNat i] ∨ txn.rekeyTo ≠ none ∨ txn.closeRemainderTo ≠ none) { text := dummyText i }

/-- `validateGuardedDummies`. -/
def validateGuardedDummies (codec : Codec) (addressFailure : String → SdkError) (dummies : List Txn) :
    Except SdkError Unit :=
  match codec.sdk.lsigAddress guardedDummyProgram with
  | .error why => .error (addressFailure why)
  | .ok address => forEach (checkDummy codec address) 0 dummies

/-- `signGuardedDummies`: the dummies as passthrough items from `start` on. -/
def signGuardedDummies (codec : Codec) (addressFailure : String → SdkError)
    (signFailure : ℕ → String → SdkError) (dummies : List Txn) (start : ℕ) :
    Except SdkError (List AssemblyPassthroughItem) := do
  if dummies = [] then return []
  validateGuardedDummies codec addressFailure dummies
  mapEach (fun i txn => match codec.sdk.signLogicSig guardedDummyProgram txn with
    | .error why => .error (signFailure i why)
    | .ok signed => .ok
      { targetIndex := ((start + i : ℕ) : ℤ)
        signedTxnHex := hexEncode signed
        authorization := some { logicSigResources := some guardedDummyLogicSigResources } }) 0 dummies

/-! ### The mutation report -/

/-- How a language reads a report that is there. -/
structure ReportView where
  originalCount : Except SdkError ℤ
  finalCount : Except SdkError ℤ
  dummiesAdded : Except SdkError ℤ
  /-- The types of `group_id_changed` and `fees_modified`. -/
  typed : Except SdkError Unit
  groupIdChanged : Bool
  feesModified : List Json
  /-- The value of an index in `fees_modified`. -/
  feeIndex : Json → Option ℤ
  showIndex : Json → String
  totalFeesDelta : Except SdkError ℤ
  /-- The value `total_fees_delta` is compared by: Go converts it to `uint64`. -/
  asTotal : ℤ → ℤ
  /-- The sum of fee increases: Go's wraps at 64 bits. -/
  addFee : ℕ → ℕ → ℕ

/-- The three counts, read before any is compared. -/
def checkCountsOf (view : ReportView) (original planned : ℕ) : Except SdkError Unit := do
  let originalCount ← view.originalCount
  let finalCount ← view.finalCount
  let dummiesAdded ← view.dummiesAdded
  failIf (originalCount ≠ original)
    { text := s!"bounded mutation original_count {originalCount} does not match request count {original}" }
  failIf (finalCount ≠ planned)
    { text := s!"bounded mutation final_count {finalCount} does not match returned count {planned}" }
  failIf (dummiesAdded ≠ (planned - original : ℕ))
    { text := s!"bounded mutation dummies_added {dummiesAdded} does not match appended count {planned - original}" }

/-- One entry of `fees_modified`: an integer below `n` that is not listed before. -/
def checkFeeIndex (view : ReportView) (n : ℕ) (claimed : List ℤ) (v : Json) : Except SdkError Unit :=
  match view.feeIndex v with
  | none => signerError s!"bounded mutation fee index {view.showIndex v} is outside original positions"
  | some i => do
    failIf (i < 0 ∨ n ≤ i)
      { text := s!"bounded mutation fee index {view.showIndex v} is outside original positions" }
    failIf (i ∈ claimed) { text := s!"bounded mutation fee index {i} is duplicated" }

def readFees (view : ReportView) (n : ℕ) : Except SdkError (List ℤ) :=
  claimAll (fun v => (view.feeIndex v).getD 0) (fun _ => checkFeeIndex view n) 0 [] view.feesModified

/-- Whether all transactions count as grouped, up to the first that does not. -/
def allGrouped (codec : Codec) : List Txn → Except SdkError Bool
  | [] => .ok true
  | txn :: txns => do
    let grouped ← codec.grouped txn
    if grouped then allGrouped codec txns else pure false

/-- An existing group id is not exchanged without another mutation. -/
def checkRegroup (codec : Codec) (original : List Txn) (changed : Bool) (appended : ℕ)
    (fees : List ℤ) : Except SdkError Unit := do
  if changed ∧ appended = 0 ∧ fees = [] then
    let all ← allGrouped codec original
    failIf (all = true)
      { text := "signer changed an existing bounded group ID without a fee or membership mutation" }

/-- Position `i`: what the report allows to differ is taken over, then the
bytes are compared. The result is the fee increase. -/
def checkPosition (codec : Codec) (changed : Bool) (fees : List ℤ) (i : ℕ) (original planned : Txn) :
    Except SdkError ℕ := do
  let copy ← codec.clone original
  let expected := if changed then { copy with group := planned.group } else copy
  let listed := (i : ℤ) ∈ fees
  failIf (listed ∧ planned.fee < expected.fee)
    { text := s!"bounded mutation decreased fee at original position {i}" }
  let wanted := if listed then { expected with fee := planned.fee } else expected
  failIf (codec.sdk.encodeTxn wanted ≠ codec.sdk.encodeTxn planned)
    { text := s!"signer changed unreported fields at bounded original position {i}" }
  pure (if listed then planned.fee - expected.fee else 0)

/-- `validateBoundedComponentPlan`; `view` is the report, if there is one. -/
def validateBoundedComponentPlan (codec : Codec) (addressFailure : String → SdkError)
    (original planned : List Txn) (view : Option ReportView) : Except SdkError Unit := do
  failIf (planned.length < original.length)
    { text := s!"signer returned {planned.length} bounded group positions, want at least {original.length}" }
  let appended := planned.length - original.length
  match view with
  | none => do
    failIf (appended ≠ 0)
      { text := s!"signer appended {appended} bounded group positions without a mutation report" }
    let _ ← mapEach (fun i p => checkPosition codec false [] i p.1 p.2) 0 (original.zip planned)
    validateGuardedDummies codec addressFailure (planned.drop original.length)
  | some view => do
    checkCountsOf view original.length planned.length
    view.typed
    let fees ← readFees view original.length
    checkRegroup codec original view.groupIdChanged appended fees
    let deltas ← mapEach (fun i p => checkPosition codec view.groupIdChanged fees i p.1 p.2) 0
      (original.zip planned)
    let observed := deltas.foldl view.addFee 0
    let reported ← view.totalFeesDelta
    failIf (view.asTotal reported ≠ observed)
      { text := s!"bounded mutation total_fees_delta {reported} does not match observed delta {observed}" }
    validateGuardedDummies codec addressFailure (planned.drop original.length)

/-- `validateBoundedTargetFees`: no target pays more than its key advertises;
`maxOk` is the test of the advertised value in Python and TypeScript. Go
ranges over a map, and the order only selects the complaint. -/
def validateBoundedTargetFees (maxOk : ℤ → Bool) (planned : List Txn) (maxFees : List (ℕ × ℤ)) :
    Except SdkError Unit :=
  forEach (fun _ p => match planned[p.1]? with
    | none => signerError s!"bounded target index {p.1} is outside planned group"
    | some txn => do
      failIf (maxOk p.2 = false) { text := s!"bounded target {p.1} has invalid advertised max_fee" }
      failIf (p.2 < txn.fee)
        { text := s!"bounded target {p.1} fee {txn.fee} exceeds advertised max_fee {p.2}" }) 0 maxFees

/-! ### Signed transactions -/

/-- `verifyAssembledGroup` over the language's `signedTxnMatchesCanonical`. -/
def verifyAssembledGroup (matchesCanonical : String → ℕ → String → String → Except SdkError Unit)
    (group signed : List String) : Except SdkError Unit := do
  failIf (signed.length ≠ group.length)
    { text := s!"assembled group has {signed.length} transaction(s), want {group.length}" }
  forEach (fun i p => matchesCanonical "assembled transaction" i p.1 p.2) 0 (signed.zip group)

/-- The transaction inside a signed transaction in hexadecimal. -/
def Codec.inner (codec : Codec) (signedHex : String) : Option Txn :=
  match codec.unhex signedHex with
  | none => none
  | some signed => match codec.sdk.decodeSigned signed with
    | .ok txn => txn
    | .error _ => none

/-- The decoding of a signed transaction, with the language's complaints. -/
def decodeSignedWith (codec : Codec) (badHex notSigned : SdkError) (failed : String → SdkError)
    (signedHex : String) : Except SdkError Txn :=
  match codec.unhex signedHex with
  | none => .error badHex
  | some signed => match codec.sdk.decodeSigned signed with
    | .ok (some txn) => .ok txn
    | .ok none => .error notSigned
    | .error why => .error (failed why)

/-! ### What a successful check ensures -/

/-- What every proof needs of a codec. -/
structure Codec.Lawful (codec : Codec) : Prop where
  none_group : ∀ t, codec.groupId t = .ok none → noGroupId t.group = true
  some_group : ∀ t g, codec.groupId t = .ok (some g) → t.group = g ∧ noGroupId g = false
  clone : codec.sdk.Faithful → ∀ t, codec.clone t = .ok t

/-- `planned` is `original` up to a group id, if `regrouped`, and a fee that
did not decrease, if `listed`. -/
structure PlannedFrom (regrouped listed : Prop) (original planned : Txn) : Prop where
  same : planned = { original with group := planned.group, fee := planned.fee }
  group : ¬ regrouped → planned.group = original.group
  fee : ¬ listed → planned.fee = original.fee
  fee_le : original.fee ≤ planned.fee

def ReportView.fees (view : ReportView) : List ℤ := view.feesModified.filterMap view.feeIndex

/-- What a plan's report declares. -/
def regroups (view : Option ReportView) : Bool := (view.map (·.groupIdChanged)).getD false

def listedFees (view : Option ReportView) : List ℤ := (view.map ReportView.fees).getD []

section Spec

variable {codec : Codec}

theorem unhexEntry_ok {i : ℕ} {s : String} {raw : Bytes} :
    codec.unhexEntry i s = .ok raw ↔ codec.unhex s = some raw := by
  unfold Codec.unhexEntry
  cases codec.unhex s <;> simp

theorem decodeEntry_ok {i : ℕ} {s : String} {t : Txn} (h : decodeEntry codec i s = .ok t) :
    codec.unhex s = some (codec.sdk.encodeTxn t) := by
  simp only [decodeEntry, bind_eq_ok, unhexEntry_ok, failIf_ok, not_not, pure_eq_ok] at h
  obtain ⟨raw, h1, _, -, _, -, _, h3, rfl⟩ := h
  rw [h1, h3]

theorem checkMemberGroup_ok (hl : codec.Lawful) {g : Bytes} {i : ℕ} {t : Txn} {u : Unit}
    (h : checkMemberGroup codec g i t = .ok u) : t.group = g := by
  simp only [checkMemberGroup, bind_eq_ok (α := Option Bytes), seq_eq_ok, failIf_ok, not_not] at h
  obtain ⟨current, h1, -, rfl⟩ := h
  exact (hl.some_group t g h1).1

theorem checkGroupIds_ok (hl : codec.Lawful) {txns : List Txn} {u : Unit} (hne : txns ≠ [])
    (h : checkGroupIds codec txns = .ok u) : GroupIdOk codec.sdk txns := by
  match txns, hne, h with
  | [t], _, h =>
    simp only [checkGroupIds, bind_eq_ok (α := Option Bytes), failIf_ok, not_not] at h
    obtain ⟨current, h1, rfl⟩ := h
    refine ⟨fun t' ht => ?_, fun hlen => absurd rfl hlen⟩
    cases ht
    exact hl.none_group t h1
  | first :: second :: rest, _, h =>
    refine ⟨fun t ht => (by cases ht), fun _ => ?_⟩
    simp only [checkGroupIds, bind_eq_ok (α := Option Bytes)] at h
    obtain ⟨groupId, h1, h2⟩ := h
    cases groupId with
    | none => simp [signerError] at h2
    | some g =>
      obtain ⟨rfl, hg⟩ := hl.some_group first g h1
      simp only [seq_eq_ok] at h2
      obtain ⟨h3, h4⟩ := h2
      refine ⟨first.group, hg, fun t ht => ?_, ?_⟩
      · rcases List.mem_cons.mp ht with rfl | ht
        · rfl
        · obtain ⟨j, hj⟩ := List.mem_iff_getElem?.mp ht
          exact checkMemberGroup_ok hl (forEach_ok.mp h3 j t hj)
      · split at h4
        · cases h4
        · rename_i computed hc
          rw [failIf_ok, not_not] at h4
          rw [hc, h4]

/-- A decoded group re-encodes to the bytes it was decoded from, and its
group id is the hash of its members. -/
theorem decodeCanonicalGroup_ok (hl : codec.Lawful) {group : List String} {txns : List Txn}
    (h : decodeCanonicalGroup codec group = .ok txns) :
    group.length = txns.length ∧ 0 < txns.length ∧ txns.length ≤ maxTxGroupSize ∧
      (∀ (i : ℕ) s t, group[i]? = some s → txns[i]? = some t →
        codec.unhex s = some (codec.sdk.encodeTxn t)) ∧ GroupIdOk codec.sdk txns := by
  simp only [decodeCanonicalGroup, bind_eq_ok (α := List Txn), seq_eq_ok, failIf_ok, pure_eq_ok,
    mapEach_ok, not_lt] at h
  obtain ⟨h1, h2, _, ⟨h3, h4⟩, h5, rfl⟩ := h
  have hpos := List.length_pos_iff.mpr h1
  refine ⟨h3, h3 ▸ hpos, h3 ▸ h2, fun i s t hs ht => decodeEntry_ok (h4 i s t hs ht), ?_⟩
  exact checkGroupIds_ok hl (List.length_pos_iff.mp (h3 ▸ hpos)) h5

theorem map_feeIndex {view : ReportView} (h : ∀ v ∈ view.feesModified, (view.feeIndex v).isSome = true) :
    view.feesModified.map (fun v => (view.feeIndex v).getD 0) = view.fees := by
  unfold ReportView.fees
  generalize view.feesModified = vs at h ⊢
  induction vs with
  | nil => rfl
  | cons v vs ih =>
    obtain ⟨i, hi⟩ := Option.isSome_iff_exists.mp (h v (List.mem_cons_self ..))
    rw [List.map_cons, List.filterMap_cons, hi, ih fun w hw => h w (List.mem_cons_of_mem _ hw)]
    rfl

/-- The list is read whole: positions of the originals, each once. -/
theorem readFees_ok {view : ReportView} {n : ℕ} {claimed : List ℤ} : readFees view n = .ok claimed ↔
    (∀ v ∈ view.feesModified, (view.feeIndex v).isSome = true) ∧ view.fees.Nodup ∧
      (∀ i ∈ view.fees, 0 ≤ i ∧ i < (n : ℤ)) ∧ claimed = view.fees.reverse := by
  have hclaims : readFees view n = .ok claimed ↔ _ := claimAll_ok (R := fun i => 0 ≤ i ∧ i < (n : ℤ))
    (E := fun _ v => (view.feeIndex v).isSome) fun k c v => by
      unfold checkFeeIndex
      cases view.feeIndex v with
      | none => simp [signerError]
      | some i => simp [not_or]
  rw [hclaims, forall_getElem? (P := fun v => (view.feeIndex v).isSome = true)]
  simp only [List.append_nil, List.not_mem_nil, not_false_eq_true, and_true]
  constructor
  · rintro ⟨hout, hrange, hnodup, hsome⟩
    rw [map_feeIndex hsome] at hout hrange hnodup
    exact ⟨hsome, hnodup, hrange, hout⟩
  · rintro ⟨hsome, hnodup, hrange, hout⟩
    rw [map_feeIndex hsome]
    exact ⟨hout, hrange, hnodup, hsome⟩

theorem checkPosition_ok (hl : codec.Lawful) (hsdk : codec.sdk.Faithful) {changed : Bool}
    {fees : List ℤ} {i : ℕ} {o p : Txn} {delta : ℕ}
    (h : checkPosition codec changed fees i o p = .ok delta) :
    PlannedFrom (changed = true) ((i : ℤ) ∈ fees) o p := by
  simp only [checkPosition, hl.clone hsdk, bind_eq_ok (α := Txn), seq_eq_ok, failIf_ok, not_not,
    Except.ok.injEq, exists_eq_left', hsdk.encodeTxn_inj, not_and, not_lt] at h
  obtain ⟨h1, h2, -⟩ := h
  by_cases hc : changed = true <;> by_cases hf : (i : ℤ) ∈ fees <;>
    simp only [hc, hf, if_true, if_false, Bool.false_eq_true, forall_true_left] at h1 h2
  · exact ⟨h2.symm, fun h => absurd hc h, fun h => absurd hf h, h1⟩
  · refine ⟨?_, fun h => absurd hc h, fun _ => (congrArg Txn.fee h2).symm, (congrArg Txn.fee h2).le⟩
    rw [← congrArg Txn.fee h2]
    exact h2.symm
  · refine ⟨?_, fun _ => (congrArg Txn.group h2).symm, fun h => absurd hf h, h1⟩
    rw [← congrArg Txn.group h2]
    exact h2.symm
  · subst h2
    exact ⟨rfl, fun _ => rfl, fun _ => rfl, le_rfl⟩

theorem checkPositions_ok (hl : codec.Lawful) (hsdk : codec.sdk.Faithful) {changed : Bool}
    {fees : List ℤ} {original planned : List Txn} {deltas : List ℕ}
    (h : mapEach (fun i p => checkPosition codec changed fees i p.1 p.2) 0 (original.zip planned) =
      .ok deltas) {i : ℕ} {o p : Txn} (ho : original[i]? = some o) (hp : planned[i]? = some p) :
    PlannedFrom (changed = true) ((i : ℤ) ∈ fees) o p := by
  obtain ⟨hlen, hall⟩ := mapEach_ok.mp h
  have hz : (original.zip planned)[i]? = some (o, p) := List.getElem?_zip_eq_some.mpr ⟨ho, hp⟩
  obtain ⟨hi, -⟩ := List.getElem?_eq_some_iff.mp hz
  have hc := hall i (o, p) _ hz (List.getElem?_eq_getElem (hlen ▸ hi))
  rw [Nat.zero_add] at hc
  exact checkPosition_ok hl hsdk hc

theorem checkDummy_ok {address : String} {i : ℕ} {t : Txn} {u : Unit} :
    checkDummy codec address i t = .ok u ↔ codec.noteRange i = .ok () ∧ isCanonicalDummy address i t := by
  simp only [checkDummy, seq_eq_ok, failIf_ok, not_or, not_not, isCanonicalDummy]
  tauto

theorem validateGuardedDummies_ok {f : String → SdkError} {dummies : List Txn} {u : Unit} :
    validateGuardedDummies codec f dummies = .ok u ↔
      ∃ address, codec.sdk.lsigAddress guardedDummyProgram = .ok address ∧
        ∀ (k : ℕ) t, dummies[k]? = some t → codec.noteRange k = .ok () ∧ isCanonicalDummy address k t := by
  unfold validateGuardedDummies
  cases codec.sdk.lsigAddress guardedDummyProgram with
  | error why => simp
  | ok address => simp [forEach_ok, checkDummy_ok]

/-- A planned group that passes `validateBoundedComponentPlan`. -/
structure PlanOk (sdk : AlgoSdk) (view : Option ReportView) (original planned : List Txn) : Prop where
  length_le : original.length ≤ planned.length
  positions : ∀ (i : ℕ) o p, original[i]? = some o → planned[i]? = some p →
    PlannedFrom (regroups view = true) ((i : ℤ) ∈ listedFees view) o p
  dummies : ∃ address, sdk.lsigAddress guardedDummyProgram = .ok address ∧
    ∀ (k : ℕ) t, planned[original.length + k]? = some t → isCanonicalDummy address k t

theorem validateBoundedComponentPlan_length {f : String → SdkError} {original planned : List Txn}
    {view : Option ReportView} {u : Unit}
    (h : validateBoundedComponentPlan codec f original planned view = .ok u) :
    original.length ≤ planned.length := by
  simp only [validateBoundedComponentPlan, bind_eq_ok, failIf_ok, not_lt] at h
  obtain ⟨_, hle, -⟩ := h
  exact hle

/-- Every mutation the validation lets through is declared in the report. -/
theorem validateBoundedComponentPlan_ok (hl : codec.Lawful) (hsdk : codec.sdk.Faithful)
    {f : String → SdkError} {original planned : List Txn} {view : Option ReportView} {u : Unit}
    (h : validateBoundedComponentPlan codec f original planned view = .ok u) :
    PlanOk codec.sdk view original planned := by
  simp only [validateBoundedComponentPlan, bind_eq_ok, failIf_ok, not_lt] at h
  obtain ⟨_, hle, h⟩ := h
  cases view with
  | none =>
    simp only [bind_eq_ok, validateGuardedDummies_ok, List.getElem?_drop] at h
    obtain ⟨_, -, deltas, hpos, address, haddress, hdummies⟩ := h
    refine ⟨hle, fun i o p ho hp => ?_, ⟨address, haddress, fun k t ht => (hdummies k t ht).2⟩⟩
    simpa [regroups, listedFees] using checkPositions_ok hl hsdk hpos ho hp
  | some view =>
    simp only [bind_eq_ok, validateGuardedDummies_ok, List.getElem?_drop] at h
    obtain ⟨_, -, _, -, fees, hfees, _, -, deltas, hpos, _, -, _, -, address, haddress, hdummies⟩ := h
    refine ⟨hle, fun i o p ho hp => ?_, ⟨address, haddress, fun k t ht => (hdummies k t ht).2⟩⟩
    have hp := checkPositions_ok hl hsdk hpos ho hp
    obtain ⟨-, -, -, rfl⟩ := readFees_ok.mp hfees
    rwa [List.mem_reverse] at hp

theorem validateBoundedTargetFees_ok {maxOk : ℤ → Bool} {planned : List Txn} {maxFees : List (ℕ × ℤ)}
    {u : Unit} (h : validateBoundedTargetFees maxOk planned maxFees = .ok u) :
    ∀ p ∈ maxFees, ∃ t, planned[p.1]? = some t ∧ (t.fee : ℤ) ≤ p.2 := by
  intro p hp
  obtain ⟨j, hj⟩ := List.mem_iff_getElem?.mp hp
  have hc := forEach_ok.mp h j p hj
  split at hc
  · cases hc
  · rename_i t ht
    simp only [bind_eq_ok, failIf_ok, Int.not_lt] at hc
    obtain ⟨_, -, hfee⟩ := hc
    exact ⟨t, ht, hfee⟩

theorem verifyAssembledGroup_ok {m : String → ℕ → String → String → Except SdkError Unit}
    {group signed : List String} {u : Unit} :
    verifyAssembledGroup m group signed = .ok u ↔ signed.length = group.length ∧
      ∀ (i : ℕ) s c, signed[i]? = some s → group[i]? = some c →
        m "assembled transaction" i s c = .ok () := by
  simp only [verifyAssembledGroup, seq_eq_ok, failIf_ok, not_not, forEach_ok, Nat.zero_add,
    Prod.forall, List.getElem?_zip_eq_some, and_imp]

end Spec

theorem decodeSignedWith_ok {codec : Codec} {e e' : SdkError} {f : String → SdkError} {s : String}
    {t : Txn} : decodeSignedWith codec e e' f s = .ok t ↔ codec.inner s = some t := by
  unfold decodeSignedWith Codec.inner
  cases codec.unhex s with
  | none => simp
  | some signed =>
    dsimp only
    rcases codec.sdk.decodeSigned signed with why | txn
    · simp
    · cases txn <;> simp

/-- A test of signed bytes that passes only on a signature of the canonical ones. -/
def Pins (codec : Codec) (m : String → ℕ → String → String → Except SdkError Unit) : Prop :=
  ∀ label i signedHex canonicalHex raw, codec.unhex canonicalHex = some raw →
    m label i signedHex canonicalHex = .ok () →
      ∃ t, codec.inner signedHex = some t ∧ codec.sdk.encodeTxn t = raw

namespace Go

def codec (env : Env) : Codec where
  sdk := env.toAlgoSdk
  unhex := hexDecode
  hexFailure i s := err s!"transaction {i} is invalid hex: {env.hexError s}"
  groupId txn := .ok (if noGroupId txn.group then none else some txn.group)
  hashFailure why := err s!"compute group ID: {why}"
  clone := .ok
  grouped txn := .ok (!noGroupId txn.group)
  noteRange _ := .ok ()

def addressFailure (why : String) : SdkError := err s!"failed to compute dummy address: {why}"

def signFailure (i : ℕ) (why : String) : SdkError := err s!"failed to sign dummy transaction {i + 1}: {why}"

/-- A decoded report is typed; the fee sum and its comparison are 64 bits wide. -/
def reportView (r : MutationReport) : ReportView where
  originalCount := .ok r.originalCount
  finalCount := .ok r.finalCount
  dummiesAdded := .ok r.dummiesAdded
  typed := .ok ()
  groupIdChanged := r.groupIdChanged
  feesModified := r.feesModified.map .int
  feeIndex := Json.integer?
  showIndex v := toString (v.integer?.getD 0)
  totalFeesDelta := .ok r.totalFeesDelta
  asTotal x := x % 2 ^ 64
  addFee a b := (a + b) % 2 ^ 64

/-- The report of an accepted plan, which has decoded. -/
def planView (mutations : Option Json) : Option ReportView :=
  ((decodeMutations mutations).getD none).map reportView

/-- The transaction inside a signed transaction. -/
def decodeSignedHex (env : Env) (label : String) (i : ℕ) (signedHex : String) : Except SdkError Txn :=
  decodeSignedWith (codec env) (err s!"{label} {i}: invalid hex: {env.hexError signedHex}")
    (err s!"{label} {i}: decode failed: ") (fun why => err s!"{label} {i}: decode failed: {why}") signedHex

def signedTxnMatchesCanonical (env : Env) (label : String) (i : ℕ) (signedHex canonicalHex : String) :
    Except SdkError Unit :=
  match hexDecode canonicalHex with
  | none => .error (err s!"{label} {i}: canonical bytes invalid hex: {env.hexError canonicalHex}")
  | some canonical => do
    let txn ← decodeSignedHex env label i signedHex
    failIf (env.encodeTxn txn ≠ canonical) (err s!"{label} {i} does not match the submitted canonical bytes")

theorem lawful_codec (env : Env) : (codec env).Lawful where
  none_group t h := by
    simp only [codec, Except.ok.injEq] at h
    split at h
    · assumption
    · cases h
  some_group t g h := by
    simp only [codec, Except.ok.injEq] at h
    split at h
    · cases h
    · cases h
      exact ⟨rfl, by simpa using ‹¬ noGroupId t.group = true›⟩
  clone _ _ := rfl

theorem signedTxnMatchesCanonical_ok {env : Env} {label : String} {i : ℕ} {s c : String} {u : Unit} :
    signedTxnMatchesCanonical env label i s c = .ok u ↔
      ∃ t, (codec env).inner s = some t ∧ hexDecode c = some (env.encodeTxn t) := by
  unfold signedTxnMatchesCanonical
  cases hexDecode c with
  | none => simp
  | some raw =>
    simp only [bind_eq_ok, decodeSignedHex, decodeSignedWith_ok, failIf_ok, not_not, Option.some.injEq]
    simp only [eq_comm]

theorem pins_signedTxnMatchesCanonical (env : Env) :
    Pins (codec env) (signedTxnMatchesCanonical env) := by
  intro label i s c raw hc h
  obtain ⟨t, ht, hraw⟩ := signedTxnMatchesCanonical_ok.mp h
  exact ⟨t, ht, Option.some.inj (hraw.symm.trans hc)⟩

end Go

/-- The comparison of Python and TypeScript: the re-encoded hexadecimal
against the lower-cased canonical text. -/
def matchesLowered (env : Env) (label : String) (i : ℕ) (txn : Txn) (canonicalHex : String) :
    Except SdkError Unit :=
  failIf (hexEncode (env.encodeTxn txn) ≠ lower canonicalHex)
    { text := s!"{label} {i} does not match the submitted canonical bytes" }

theorem matchesLowered_ok {env : Env} {label : String} {i : ℕ} {t : Txn} {c : String} {u : Unit}
    (h : matchesLowered env label i t c = .ok u) : hexDecode c = some (env.encodeTxn t) := by
  rw [matchesLowered, failIf_ok, not_not] at h
  exact hexDecode_of_lower h.symm

namespace Python

def codec (env : Env) : Codec where
  sdk := env.toAlgoSdk
  unhex := fromHex
  hexFailure i s := { text := s!"transaction {i} is invalid hex: {env.hexError s}" }
  groupId txn :=
    if txn.group = [] ∨ txn.group = List.replicate 32 0 then .ok none
    else if txn.group.length ≠ 32 then signerError "transaction has invalid group ID"
    else .ok (some txn.group)
  hashFailure why := { text := s!"compute group ID: {why}" }
  clone := .ok
  grouped txn := .ok (txn.group != [])
  noteRange i := failIf (256 ≤ i) { kind := .value, text := "bytes must be in range(0, 256)" }

def addressFailure (why : String) : SdkError := { kind := .type, text := why }

def signFailure (_ : ℕ) (why : String) : SdkError := { kind := .type, text := why }

/-- The mapping `mutations`, read member by member. -/
def reportView (env : Env) (report : Json) : ReportView where
  originalCount := boundedMutationInt report "original_count"
  finalCount := boundedMutationInt report "final_count"
  dummiesAdded := boundedMutationInt report "dummies_added"
  typed := do
    failIf (¬ ((report.get? "group_id_changed").getD (.bool false)).isBool)
      { text := "bounded mutation group_id_changed must be a boolean" }
    let fees := (report.get? "fees_modified").getD .null
    failIf (fees.truthy false ∧ ¬ fees.isArr) { text := "bounded mutation fees_modified must be a list" }
  groupIdChanged := match report.get? "group_id_changed" with
    | some (.bool b) => b
    | _ => false
  feesModified := match report.get? "fees_modified" with
    | some (.arr xs) => xs
    | _ => []
  feeIndex v := match v with
    | .int n => some n
    | _ => none
  showIndex := env.showJson
  totalFeesDelta := boundedMutationInt report "total_fees_delta"
  asTotal x := x
  addFee a b := a + b

/-- The report of a plan. One that is no mapping fails before it is read. -/
def planView (env : Env) (report : Option Json) : Option ReportView :=
  match mutations report with
  | none => none
  | some (.obj members) => some (reportView env (.obj members))
  | some v => some { reportView env v with
      originalCount := signerError "bounded mutation report must be a mapping" }

def decodeSignedHex (env : Env) (label : String) (i : ℕ) (signedHex : String) : Except SdkError Txn :=
  decodeSignedWith (codec env) { text := s!"{label} {i}: invalid hex: {env.hexError signedHex}" }
    { text := s!"{label} {i} did not decode as a signed transaction" }
    (fun why => { text := s!"{label} {i}: decode failed: {why}" }) signedHex

/-- `_verify_signed_transaction_matches_canonical`. -/
def signedTxnMatchesCanonical (env : Env) (label : String) (i : ℕ) (signedHex canonicalHex : String) :
    Except SdkError Unit := do
  let txn ← decodeSignedHex env label i signedHex
  matchesLowered env label i txn canonicalHex

theorem lawful_codec (env : Env) : (codec env).Lawful where
  none_group t h := by
    simp only [codec] at h
    split at h
    · rename_i hg
      rcases hg with hg | hg <;> rw [hg] <;> rfl
    · split at h <;> cases h
  some_group t g h := by
    simp only [codec] at h
    split at h
    · cases h
    · split at h
      · cases h
      · rename_i hz hlen
        cases h
        refine ⟨rfl, ?_⟩
        rw [not_or] at hz
        rw [not_not] at hlen
        -- 32 zero bytes are the zero digest, which counts as absent
        rw [← Bool.not_eq_true, noGroupId, List.all_eq_true]
        intro hall
        refine hz.2 (List.eq_replicate_iff.mpr ⟨hlen, fun b hb => ?_⟩)
        simpa using hall b hb
  clone _ _ := rfl

theorem pins_signedTxnMatchesCanonical (env : Env) :
    Pins (codec env) (signedTxnMatchesCanonical env) := by
  intro label i s c raw hc h
  simp only [signedTxnMatchesCanonical, bind_eq_ok, decodeSignedHex, decodeSignedWith_ok] at h
  obtain ⟨t, ht, hm⟩ := h
  have hraw := fromHex_of_hexDecode (matchesLowered_ok hm)
  exact ⟨t, ht, Option.some.inj (hraw.symm.trans hc)⟩

/-- The advertised maximum is a non-negative integer. -/
def maxFeeOk (maxFee : ℤ) : Bool := 0 ≤ maxFee

end Python

namespace TypeScript

def hexToBytesError (s : String) : String :=
  if utf16Length s % 2 ≠ 0 then "hex string must have even length" else "invalid hex string"

/-- `groupIDBytes`. -/
def groupIdBytes (txn : Txn) : Except SdkError (Option Bytes) :=
  if noGroupId txn.group then .ok none
  else if txn.group.length ≠ 32 then signerError "transaction has invalid group ID"
  else .ok (some txn.group)

def codec (env : Env) : Codec where
  sdk := env.toAlgoSdk
  unhex := hexDecode
  hexFailure _ s := { text := hexToBytesError s }
  groupId := groupIdBytes
  hashFailure why := { kind := .type, text := why }
  clone txn := match env.decodeTxn (env.encode txn) with
    | .ok (some copy) => .ok copy
    | .ok none => .error { kind := .type, text := "" }
    | .error why => .error { kind := .type, text := why }
  grouped txn := do
    let g ← groupIdBytes txn
    pure g.isSome
  noteRange i := failIf (256 ≤ i) { text := dummyText i }

def addressFailure (why : String) : SdkError := { kind := .type, text := why }

def signFailure (_ : ℕ) (why : String) : SdkError := { kind := .type, text := why }

def reportView (env : Env) (r : MutationReport) : ReportView where
  originalCount := boundedMutationInteger "originalCount" r.originalCount
  finalCount := boundedMutationInteger "finalCount" r.finalCount
  dummiesAdded := boundedMutationInteger "dummiesAdded" r.dummiesAdded
  typed := do
    failIf (¬ (r.groupIdChanged.getD (.bool false)).isBool)
      { text := "bounded mutation group_id_changed must be a boolean" }
    failIf (¬ (r.feesModified.getD (.arr [])).isArr)
      { text := "bounded mutation fees_modified must be an array" }
  groupIdChanged := match r.groupIdChanged with
    | some v => v.truthy true
    | none => false
  feesModified := match r.feesModified with
    | some (.arr xs) => xs
    | _ => []
  feeIndex := Json.integer?
  showIndex := env.showJson
  totalFeesDelta := boundedMutationInteger "totalFeesDelta" r.totalFeesDelta
  asTotal x := x
  addFee a b := a + b

def planView (env : Env) (mutations : Option Json) : Option ReportView :=
  (planMutations mutations).map (reportView env)

def decodeSignedHex (env : Env) (label : String) (i : ℕ) (signedHex : String) : Except SdkError Txn :=
  decodeSignedWith (codec env) { text := s!"{label} {i}: decode failed: {hexToBytesError signedHex}" }
    { text := s!"{label} {i}: decode failed: " }
    (fun why => { text := s!"{label} {i}: decode failed: {why}" }) signedHex

/-- `signedTransactionMatchesCanonical`. -/
def signedTxnMatchesCanonical (env : Env) (label : String) (i : ℕ) (signedHex canonicalHex : String) :
    Except SdkError Unit := do
  let txn ← decodeSignedHex env label i signedHex
  matchesLowered env label i txn canonicalHex

theorem lawful_codec (env : Env) : (codec env).Lawful where
  none_group t h := by
    simp only [codec, groupIdBytes] at h
    split at h
    · assumption
    · split at h <;> cases h
  some_group t g h := by
    simp only [codec, groupIdBytes] at h
    split at h
    · cases h
    · split at h
      · cases h
      · cases h
        exact ⟨rfl, by simpa using ‹¬ noGroupId t.group = true›⟩
  clone hsdk t := by
    have ht : env.decodeTxn (env.encode t) = .ok (some t) := hsdk t
    simp only [codec, ht]

theorem pins_signedTxnMatchesCanonical (env : Env) :
    Pins (codec env) (signedTxnMatchesCanonical env) := by
  intro label i s c raw hc h
  simp only [signedTxnMatchesCanonical, bind_eq_ok, decodeSignedHex, decodeSignedWith_ok] at h
  obtain ⟨t, ht, hm⟩ := h
  exact ⟨t, ht, Option.some.inj ((matchesLowered_ok hm).symm.trans hc)⟩

/-- The advertised maximum is a non-negative safe integer. -/
def maxFeeOk (maxFee : ℤ) : Bool := 0 ≤ maxFee && maxFee ≤ maxSafeInteger

end TypeScript

end AplaneSdk
