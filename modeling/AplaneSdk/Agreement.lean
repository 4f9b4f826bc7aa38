/-
# The validators of the three SDKs decide the same requests

Each SDK checks a request before it sends it: in its own order, with its own
bookkeeping for the positions it has seen, and with its own notion of an
absent value. What they decide is said here once for each request, in the
words of the wire contract: `ExactCover` for `/sign/component`,
`AssemblyExactCover` for `/sign/assemble`, `SignEntriesOk` for `/sign` and
`/plan`. Empty objects are left out of a request, since TypeScript takes an
empty one for present, and so are ids beyond the alphabet of the wire, of which
Python accepts more.

Key definitions: `ExactCover`, `AssemblyExactCover`, `SignRequest.Selects`,
`SignEntriesOk`.
Key theorems: `requestIds_agree_iff`, `componentValidators_agree`,
`assemblyValidators_agree`, `signEntryValidators_agree`.
-/
import AplaneSdk.Assembly

namespace AplaneSdk

open Checks

/-! ### Request ids -/

/-- An id over the alphabet of the wire, of any length. -/
def overIdAlphabet (id : String) : Prop := ∀ c ∈ id.toList, isIdChar c = true

/-- `str.isalnum` holds of the ASCII letters and digits. -/
def Platform.KnowsAscii (p : Platform) : Prop := ∀ c : Char, c.isAlphanum = true → p.isAlnum c = true

theorem validRequestId_iff {id : String} (h : overIdAlphabet id) :
    ValidRequestId id ↔ id.length ≤ maxSignRequestIdLength :=
  and_iff_left h

theorem Python.validateSignRequestId_ok {env : Env} (henv : env.KnowsAscii) {id : String}
    (h : overIdAlphabet id) {u : Unit} :
    Python.validateSignRequestId env id = .ok u ↔ id.length ≤ maxSignRequestIdLength := by
  have hchars : ∀ c ∈ id.toList, (env.isAlnum c || "-_.:".toList.contains c) = true := by
    intro c hc
    have hid := h c hc
    rw [isIdChar, Bool.or_eq_true] at hid
    rw [Bool.or_eq_true]
    exact hid.imp_left (henv c)
  rw [Python.validateSignRequestId, checkRequestId_ok]
  constructor
  · rintro (rfl | h)
    · exact Nat.zero_le _
    · exact h.1
  · intro hlen
    exact Or.inr ⟨hlen, hchars⟩

/-- What Python takes for an id: `str.isalnum` holds of the letters and digits
of every script. -/
def Python.looksLikeId (env : Env) (id : String) : Prop :=
  id.length ≤ maxSignRequestIdLength ∧ ∀ c ∈ id.toList, (env.isAlnum c || "-_.:".toList.contains c) = true

theorem Python.validateSignRequestId_exact {env : Env} {id : String} {u : Unit} :
    Python.validateSignRequestId env id = .ok u ↔ Python.looksLikeId env id := by
  rw [Python.validateSignRequestId, checkRequestId_ok]
  constructor
  · rintro (rfl | h)
    · exact ⟨Nat.zero_le _, by simp⟩
    · exact h
  · exact Or.inr

/-- **The three id checks are one, on an id without foreign letters.** They all
accept the ids over the alphabet of the wire and no others, if and only if
what Python takes for an id is over this alphabet. -/
theorem requestIds_agree_iff (go python typescript : Env) (henv : python.KnowsAscii) (id : String) :
    ((Go.validateSignRequestId go id = .ok () ↔ ValidRequestId id) ∧
      (Python.validateSignRequestId python id = .ok () ↔ ValidRequestId id) ∧
      (TypeScript.validateSignRequestId typescript id = .ok () ↔ ValidRequestId id)) ↔
    (Python.looksLikeId python id → overIdAlphabet id) := by
  constructor
  · rintro ⟨-, hpython, -⟩ hlooks
    exact (hpython.mp (Python.validateSignRequestId_exact.mpr hlooks)).2
  · intro halphabet
    refine ⟨Go.validateSignRequestId_ok, ?_, TypeScript.validateSignRequestId_ok⟩
    constructor
    · intro hok
      have hlooks := Python.validateSignRequestId_exact.mp hok
      exact ⟨hlooks.1, halphabet hlooks⟩
    · intro hvalid
      exact (Python.validateSignRequestId_ok henv hvalid.2).mpr hvalid.1

namespace Demo

theorem knowsAscii_env : env.KnowsAscii := fun _ h => h

theorem requestIds_agree_sdk : Go.validateSignRequestId env "sdk-1" = .ok () ∧
    Python.validateSignRequestId env "sdk-1" = .ok () ∧ TypeScript.validateSignRequestId env "sdk-1" = .ok () := by
  have hvalid : ValidRequestId "sdk-1" := by decide +kernel
  obtain ⟨hgo, hpython, hts⟩ := (requestIds_agree_iff env env env knowsAscii_env "sdk-1").mpr fun _ => hvalid.2
  exact ⟨hgo.mpr hvalid, hpython.mpr hvalid, hts.mpr hvalid⟩

/-- An environment whose `isalnum` knows one letter outside ASCII. -/
noncomputable def accentEnv : Env := { env with isAlnum := fun c => c.isAlphanum || c = 'é' }

/-- Python takes an accented letter where the others do not. -/
theorem requestIds_disagree : ¬ ∀ id : String,
    (Go.validateSignRequestId accentEnv id = .ok () ↔ ValidRequestId id) ∧
      (Python.validateSignRequestId accentEnv id = .ok () ↔ ValidRequestId id) ∧
      (TypeScript.validateSignRequestId accentEnv id = .ok () ↔ ValidRequestId id) := by
  intro hall
  have hlooks : Python.looksLikeId accentEnv "é" := by
    refine ⟨by decide +kernel, fun c hc => ?_⟩
    have hc : c = 'é' := by simpa using hc
    subst hc
    rfl
  have hvalid := (hall "é").2.1.mp (Python.validateSignRequestId_exact.mpr hlooks)
  have hnot : ¬ ValidRequestId "é" := by decide +kernel
  exact hnot hvalid

end Demo

/-! ### Component requests -/

/-- The positions a request names, dummies apart. -/
def ComponentRequest.named (r : ComponentRequest) : List ℤ :=
  r.targets.map (·.targetIndex) ++ r.contextualPositions.map (·.targetIndex)

/-- What a target of each kind carries beside its index. -/
def ComponentTarget.Carries (t : ComponentTarget) : Prop :=
  match t.kind with
  | .user => t.authAddress ≠ "" ∧ t.componentKey = "" ∧ t.lsigArgs = none
  | .cosigner => t.authAddress = "" ∧ t.lsigArgs = none
  | .boundedBase => t.authAddress ≠ "" ∧ t.componentKey = ""
  | .other _ => False

/-- What the targets of one request share. -/
structure ComponentTarget.Alike (t t' : ComponentTarget) : Prop where
  kind : t.kind = t'.kind
  address : t.kind = .user → t.authAddress = t'.authAddress
  key : t.kind = .cosigner → t.componentKey = t'.componentKey

/-- The requests `/sign/component` is meant for: targets and contextual
positions name every position before the dummies once, and the dummies are the
rest, in order. -/
structure ExactCover (r : ComponentRequest) : Prop where
  id : r.requestId.length ≤ maxSignRequestIdLength
  size : 1 ≤ r.groupBytesHex.length ∧ r.groupBytesHex.length ≤ maxComponentGroupSize
  entries : ∀ item ∈ r.groupBytesHex, item ≠ ""
  targets_ne : r.targets ≠ []
  nodup : r.named.Nodup
  mem_named : ∀ i : ℤ, i ∈ r.named ↔
    0 ≤ i ∧ i < (r.groupBytesHex.length : ℤ) - (r.dummyPositions.length : ℤ)
  dummies : ∀ (k : ℕ) (p : ComponentDummyPosition), r.dummyPositions[k]? = some p →
    p.targetIndex = (r.groupBytesHex.length : ℤ) - (r.dummyPositions.length : ℤ) + (k : ℤ)
  alike : ∀ t ∈ r.targets, ∀ t' ∈ r.targets, t.Alike t'
  carries : ∀ t ∈ r.targets, t.Carries
  context : ∀ p ∈ r.contextualPositions, (p.lsigResources = none ∨ p.pqScheme = "") ∧
    (∀ x, p.lsigResources = some x → x.inBounds) ∧
    (p.pqScheme = "" ∨ p.pqScheme = pqSchemeFalcon1024)

theorem groupBytesOk_iff {items : List String} : GroupBytesOk items ↔
    (1 ≤ items.length ∧ items.length ≤ maxComponentGroupSize) ∧ ∀ item ∈ items, item ≠ "" := by
  rw [GroupBytesOk, ← List.length_pos_iff, and_assoc]
  rfl

/-- Where no mapping is empty, a mapping is present when it has entries. -/
theorem hasSomeArgs_eq {args : Option (List (String × String))} (h : args ≠ some []) :
    hasSomeArgs args = args.isSome := by
  cases args with
  | none => rfl
  | some entries => simpa [hasSomeArgs] using h

theorem contextOk_iff {p : ComponentContextPosition} : ContextOk p ↔
    (p.lsigResources = none ∨ p.pqScheme = "") ∧ (∀ x, p.lsigResources = some x → x.inBounds) ∧
      (p.pqScheme = "" ∨ p.pqScheme = pqSchemeFalcon1024) := by
  unfold ContextOk
  rw [← Option.not_isSome_iff_eq_none, or_iff_not_imp_left, not_not, or_iff_not_imp_left]

/-- A target against the first one, by its kind. -/
theorem targetKindOk_cons {hasArgs : Option (List (String × String)) → Bool}
    {first t : ComponentTarget} {rest : List ComponentTarget} {k : ℕ}
    (hargs : hasArgs t.lsigArgs = t.lsigArgs.isSome) (hk : (first :: rest)[k]? = some t) :
    TargetKindOk hasArgs (first :: rest) k t ↔ t.Alike first ∧ t.Carries := by
  have hnone : hasArgs t.lsigArgs = false ↔ t.lsigArgs = none := by
    rw [hargs, Option.isSome_eq_false_iff, Option.isNone_iff_eq_none]
  -- at position 0 the target is the first one, and the comparison is skipped
  have hskip : ∀ {α : Type} (f : ComponentTarget → α), (0 < k → f t = f first) ↔ f t = f first := by
    intro α f
    refine ⟨fun h => ?_, fun h _ => h⟩
    by_cases h0 : k = 0
    · rw [h0] at hk
      rw [Option.some.inj hk]
    · exact h (Nat.pos_of_ne_zero h0)
  have halike : t.Alike first ↔ t.kind = first.kind ∧
      (t.kind = .user → t.authAddress = first.authAddress) ∧
      (t.kind = .cosigner → t.componentKey = first.componentKey) :=
    ⟨fun h => ⟨h.kind, h.address, h.key⟩, fun h => ⟨h.1, h.2.1, h.2.2⟩⟩
  rw [halike]
  unfold TargetKindOk ComponentTarget.Carries
  simp only [List.head?_cons, Option.map_some, Option.some.injEq, hnone, hskip]
  cases t.kind with
  | user => simp [and_assoc, and_comm, and_left_comm]
  | cosigner => simp [and_assoc, and_comm, and_left_comm]
  | boundedBase => simp
  | other name => simp

/-- A walk that compares each target with the first one compares them all. -/
theorem targetKinds_iff {hasArgs : Option (List (String × String)) → Bool}
    {targets : List ComponentTarget} (hargs : ∀ t ∈ targets, hasArgs t.lsigArgs = t.lsigArgs.isSome)
    (hne : targets ≠ []) :
    (∀ k t, targets[k]? = some t → TargetKindOk hasArgs targets k t) ↔
      (∀ t ∈ targets, ∀ t' ∈ targets, t.Alike t') ∧ ∀ t ∈ targets, t.Carries := by
  obtain ⟨first, rest, rfl⟩ := List.exists_cons_of_ne_nil hne
  constructor
  · intro h
    have hfirst : ∀ t ∈ first :: rest, t.Alike first ∧ t.Carries := by
      intro t ht
      obtain ⟨k, hk⟩ := List.mem_iff_getElem?.mp ht
      exact (targetKindOk_cons (hargs t ht) hk).mp (h k t hk)
    refine ⟨fun t ht t' ht' => ?_, fun t ht => (hfirst t ht).2⟩
    obtain ⟨⟨h1, h2, h3⟩, -⟩ := hfirst t ht
    obtain ⟨⟨h1', h2', h3'⟩, -⟩ := hfirst t' ht'
    have hkind : t.kind = t'.kind := h1.trans h1'.symm
    exact ⟨hkind, fun hu => (h2 hu).trans (h2' (hkind ▸ hu)).symm,
      fun hc => (h3 hc).trans (h3' (hkind ▸ hc)).symm⟩
  · intro h k t hk
    have ht : t ∈ first :: rest := List.mem_of_getElem? hk
    exact (targetKindOk_cons (hargs t ht) hk).mpr
      ⟨h.1 t ht first (List.mem_cons_self ..), h.2 t ht⟩

section Component

variable {r : ComponentRequest}

/-- The count of original positions, where the dummies fit into the group. -/
theorem ComponentRequest.cast_originalCount (h : r.dummyPositions.length ≤ r.groupBytesHex.length) :
    (r.originalCount : ℤ) = (r.groupBytesHex.length : ℤ) - (r.dummyPositions.length : ℤ) := by
  unfold ComponentRequest.originalCount
  omega

theorem componentRequestOk_iff {hasArgs : Option (List (String × String)) → Bool}
    (hargs : ∀ t ∈ r.targets, hasArgs t.lsigArgs = t.lsigArgs.isSome) :
    r.requestId.length ≤ maxSignRequestIdLength ∧ ComponentRequestOk hasArgs r ↔ ExactCover r := by
  constructor
  · rintro ⟨hid, hok⟩
    have hn := ComponentRequest.cast_originalCount hok.dummies_le
    obtain ⟨hsize, hentries⟩ := groupBytesOk_iff.mp hok.bytes
    obtain ⟨halike, hcarries⟩ := (targetKinds_iff hargs hok.targets_ne).mp hok.kinds
    refine ⟨hid, hsize, hentries, hok.targets_ne, hok.nodup, fun i => ?_, fun k p hp => ?_, halike,
      hcarries, fun p hp => contextOk_iff.mp (hok.context p hp)⟩
    · rw [← hn]
      constructor
      · exact hok.range i
      · rintro ⟨h0, h1⟩
        have := hok.cover i.toNat (by omega)
        rwa [Int.toNat_of_nonneg h0] at this
    · rw [hok.suffix k p hp, ← hn]
      exact Int.natCast_add ..
  · intro h
    -- the first target names a position, so there are fewer dummies than positions
    have hle : r.dummyPositions.length ≤ r.groupBytesHex.length := by
      obtain ⟨t, ht⟩ := List.exists_mem_of_ne_nil _ h.targets_ne
      have := (h.mem_named t.targetIndex).mp
        (List.mem_append_left _ (List.mem_map_of_mem ht))
      omega
    have hn := ComponentRequest.cast_originalCount hle
    refine ⟨h.id, ⟨groupBytesOk_iff.mpr ⟨h.size, h.entries⟩, h.targets_ne, hle, ?_, h.nodup, ?_,
      (targetKinds_iff hargs h.targets_ne).mpr ⟨h.alike, h.carries⟩, ?_, ?_⟩⟩
    · intro i hi
      rw [hn]
      exact (h.mem_named i).mp hi
    · intro i hi
      refine (h.mem_named i).mpr ⟨by omega, ?_⟩
      rw [← hn]
      omega
    · intro p hp
      exact contextOk_iff.mpr (h.context p hp)
    · intro k p hp
      rw [h.dummies k p hp, ← hn]
      exact (Int.natCast_add ..).symm

/-- **The three validators of a component request agree.** They accept the
exact covers and nothing else. -/
theorem componentValidators_agree (go python typescript : Env) (henv : python.KnowsAscii)
    (hid : overIdAlphabet r.requestId) (hargs : ∀ t ∈ r.targets, t.lsigArgs ≠ some []) :
    (Go.validateComponentRequest go r = .ok () ↔ ExactCover r) ∧
      (Python.validateComponentRequest python r = .ok () ↔ ExactCover r) ∧
      (TypeScript.validateComponentRequest typescript r = .ok () ↔ ExactCover r) := by
  have hsome : ∀ t ∈ r.targets, hasSomeArgs t.lsigArgs = t.lsigArgs.isSome := fun t ht =>
    hasSomeArgs_eq (hargs t ht)
  refine ⟨?_, ?_, ?_⟩
  · rw [Go.validateComponentRequest_ok, validRequestId_iff hid, componentRequestOk_iff hsome]
  · rw [Python.validateComponentRequest_ok, Python.validateSignRequestId_ok henv hid,
      componentRequestOk_iff hsome]
  · rw [TypeScript.validateComponentRequest_ok, validRequestId_iff hid,
      componentRequestOk_iff fun _ _ => rfl]

end Component

namespace Demo

/-- A user target beside a dummy. -/
def userRequest : ComponentRequest where
  requestId := "sdk-1"
  groupBytesHex := ["5458", "5459"]
  targets := [{ targetIndex := 0, kind := .user, authAddress := "A" }]
  dummyPositions := [{ targetIndex := 1 }]

theorem componentValidators_agree_user : ExactCover userRequest ∧
    Python.validateComponentRequest env userRequest = .ok () ∧
    TypeScript.validateComponentRequest env userRequest = .ok () := by
  have hid : overIdAlphabet userRequest.requestId := List.all_eq_true.mp (by decide +kernel)
  obtain ⟨hgo, hpython, hts⟩ := componentValidators_agree env env env knowsAscii_env hid
    (by simp [userRequest])
  have hcover : ExactCover userRequest := hgo.mp (by decide +kernel)
  exact ⟨hcover, hpython.mpr hcover, hts.mpr hcover⟩

end Demo

/-! ### Assembly requests -/

/-- All request ids an assembly request mentions. -/
def AssemblyRequest.ids (r : AssemblyRequest) : List String :=
  r.requestId :: r.targets.flatMap fun t =>
    [t.userSourceRequestId, t.baseSourceRequestId, t.cosignerSourceRequestId]

/-- What a target of each kind carries, and what it must not. -/
def AssemblyTarget.Carries (t : AssemblyTarget) : Prop :=
  match t.kind with
  | .guarded => t.userSignature ≠ "" ∧ t.baseSignatures = [] ∧ t.boundedRuntimeArgs = none ∧
      t.assemblyReceipt = "" ∧ t.baseSourceRequestId = ""
  | .boundedCosigner => (t.baseSignatures ≠ [] ∧ t.assemblyReceipt ≠ "") ∧ t.userSignature = "" ∧
      t.userSourceRequestId = "" ∧ t.guardedRuntimeArgs = []
  | .other _ => False

/-- The requests `/sign/assemble` is meant for: every position of the group is
a target or a passthrough item, and only one of them. -/
structure AssemblyExactCover (r : AssemblyRequest) : Prop where
  ids : ∀ id ∈ r.ids, id.length ≤ maxSignRequestIdLength
  size : 1 ≤ r.groupBytesHex.length ∧ r.groupBytesHex.length ≤ maxComponentGroupSize
  entries : ∀ item ∈ r.groupBytesHex, item ≠ ""
  some_item : r.targets ≠ [] ∨ r.passthrough ≠ []
  nodup : r.indices.Nodup
  mem_indices : ∀ i : ℤ, i ∈ r.indices ↔ 0 ≤ i ∧ i < (r.groupBytesHex.length : ℤ)
  required : ∀ t ∈ r.targets, t.authAddress ≠ "" ∧ t.cosignerSignature ≠ ""
  carries : ∀ t ∈ r.targets, t.Carries
  signed : ∀ p ∈ r.passthrough, p.signedTxnHex ≠ ""

section Assembly

variable {r : AssemblyRequest} {idOk : String → Prop}
  {hasArgs : Option (List (String × String)) → Bool}

theorem AssemblyRequest.mem_ids {id : String} : id ∈ r.ids ↔ id = r.requestId ∨ ∃ t ∈ r.targets,
    id = t.userSourceRequestId ∨ id = t.baseSourceRequestId ∨ id = t.cosignerSourceRequestId := by
  simp [AssemblyRequest.ids]

/-- The ids a target's own kind forbids are empty, so all three ids are checked. -/
theorem assemblyTarget_ok_iff {t : AssemblyTarget}
    (hid : ∀ id, id = t.userSourceRequestId ∨ id = t.baseSourceRequestId ∨ id = t.cosignerSourceRequestId →
      (idOk id ↔ id.length ≤ maxSignRequestIdLength))
    (hargs : hasArgs t.boundedRuntimeArgs = t.boundedRuntimeArgs.isSome) :
    t.Ok idOk hasArgs ↔ (t.authAddress ≠ "" ∧ t.cosignerSignature ≠ "") ∧ t.Carries ∧
      (t.userSourceRequestId.length ≤ maxSignRequestIdLength ∧
        t.baseSourceRequestId.length ≤ maxSignRequestIdLength ∧
        t.cosignerSourceRequestId.length ≤ maxSignRequestIdLength) := by
  have hempty : "".length ≤ maxSignRequestIdLength := Nat.zero_le _
  have hnone : hasArgs t.boundedRuntimeArgs = false ↔ t.boundedRuntimeArgs = none := by
    rw [hargs, Option.isSome_eq_false_iff, Option.isNone_iff_eq_none]
  have huser := hid t.userSourceRequestId (Or.inl rfl)
  have hbase := hid t.baseSourceRequestId (Or.inr (Or.inl rfl))
  have hcosigner := hid t.cosignerSourceRequestId (Or.inr (Or.inr rfl))
  unfold AssemblyTarget.Ok AssemblyTarget.Carries
  rw [hcosigner]
  cases t.kind with
  | guarded =>
    simp only [hnone, huser]
    constructor
    · rintro ⟨h1, h2, h3, h4, h5, h6, h7, h8, h9⟩
      exact ⟨⟨h1, h2⟩, ⟨h4, h5, h6, h7, h8⟩, h9, h8 ▸ hempty, h3⟩
    · rintro ⟨⟨h1, h2⟩, ⟨h4, h5, h6, h7, h8⟩, h9, -, h3⟩
      exact ⟨h1, h2, h3, h4, h5, h6, h7, h8, h9⟩
  | boundedCosigner =>
    simp only [hbase]
    constructor
    · rintro ⟨h1, h2, h3, h4, h5, h6, h7, h8, h9⟩
      exact ⟨⟨h1, h2⟩, ⟨⟨h4, h5⟩, h6, h7, h8⟩, h7 ▸ hempty, h9, h3⟩
    · rintro ⟨⟨h1, h2⟩, ⟨⟨h4, h5⟩, h6, h7, h8⟩, -, h9, h3⟩
      exact ⟨h1, h2, h3, h4, h5, h6, h7, h8, h9⟩
  | other name => simp

theorem assemblyRequestOk_iff (hid : ∀ id ∈ r.ids, (idOk id ↔ id.length ≤ maxSignRequestIdLength))
    (hargs : ∀ t ∈ r.targets, hasArgs t.boundedRuntimeArgs = t.boundedRuntimeArgs.isSome) :
    idOk r.requestId ∧ AssemblyRequestOk idOk hasArgs r ↔ AssemblyExactCover r := by
  have htarget : ∀ t ∈ r.targets, t.Ok idOk hasArgs ↔ _ := fun t ht =>
    assemblyTarget_ok_iff (fun id h => hid id (AssemblyRequest.mem_ids.mpr (Or.inr ⟨t, ht, h⟩))) (hargs t ht)
  have hown : idOk r.requestId ↔ _ := hid r.requestId (AssemblyRequest.mem_ids.mpr (Or.inl rfl))
  constructor
  · rintro ⟨hreq, hok⟩
    obtain ⟨hsize, hentries⟩ := groupBytesOk_iff.mp hok.bytes
    have hmem : ∀ i : ℤ, i ∈ r.indices ↔ 0 ≤ i ∧ i < (r.groupBytesHex.length : ℤ) := by
      intro i
      constructor
      · exact hok.range i
      · rintro ⟨h0, h1⟩
        have := hok.cover i.toNat (by omega)
        rwa [Int.toNat_of_nonneg h0] at this
    refine ⟨?_, hsize, hentries, ?_, hok.nodup, hmem, fun t ht => ?_, fun t ht => ?_, hok.passthrough⟩
    · intro id h
      rcases AssemblyRequest.mem_ids.mp h with rfl | ⟨t, ht, hsource⟩
      · exact hown.mp hreq
      · obtain ⟨-, -, huser, hbase, hcosigner⟩ := (htarget t ht).mp (hok.targets t ht)
        rcases hsource with rfl | rfl | rfl
        · exact huser
        · exact hbase
        · exact hcosigner
    · -- position 0 is covered
      have h0 := (hmem 0).mpr ⟨le_refl _, by omega⟩
      by_contra hboth
      rw [not_or, not_not, not_not] at hboth
      rw [AssemblyRequest.indices, hboth.1, hboth.2] at h0
      cases h0
    · exact ((htarget t ht).mp (hok.targets t ht)).1
    · exact ((htarget t ht).mp (hok.targets t ht)).2.1
  · intro h
    have hlen : ∀ t ∈ r.targets, ∀ id, id = t.userSourceRequestId ∨ id = t.baseSourceRequestId ∨
        id = t.cosignerSourceRequestId → id.length ≤ maxSignRequestIdLength := fun t ht id hsource =>
      h.ids id (AssemblyRequest.mem_ids.mpr (Or.inr ⟨t, ht, hsource⟩))
    refine ⟨hown.mpr (h.ids _ (AssemblyRequest.mem_ids.mpr (Or.inl rfl))),
      groupBytesOk_iff.mpr ⟨h.size, h.entries⟩, fun i hi => (h.mem_indices i).mp hi, h.nodup,
      fun i hi => (h.mem_indices i).mpr ⟨by omega, by omega⟩, fun t ht => ?_, h.signed⟩
    exact (htarget t ht).mpr ⟨h.required t ht, h.carries t ht, hlen t ht _ (Or.inl rfl),
      hlen t ht _ (Or.inr (Or.inl rfl)), hlen t ht _ (Or.inr (Or.inr rfl))⟩

/-- **The three validators of an assembly request agree.** They accept the
exact covers and nothing else. -/
theorem assemblyValidators_agree (go python typescript : Env) (henv : python.KnowsAscii)
    (hid : ∀ id ∈ r.ids, overIdAlphabet id) (hargs : ∀ t ∈ r.targets, t.boundedRuntimeArgs ≠ some []) :
    (Go.validateAssemblyRequest go r = .ok () ↔ AssemblyExactCover r) ∧
      (Python.validateAssemblyRequest python r = .ok () ↔ AssemblyExactCover r) ∧
      (TypeScript.validateAssemblyRequest typescript r = .ok () ↔ AssemblyExactCover r) := by
  have hsome : ∀ t ∈ r.targets, hasSomeArgs t.boundedRuntimeArgs = t.boundedRuntimeArgs.isSome :=
    fun t ht => hasSomeArgs_eq (hargs t ht)
  refine ⟨?_, ?_, ?_⟩
  · rw [Go.validateAssemblyRequest_ok]
    exact assemblyRequestOk_iff (fun id h => validRequestId_iff (hid id h)) hsome
  · rw [Python.validateAssemblyRequest_ok]
    exact assemblyRequestOk_iff (fun id h => Python.validateSignRequestId_ok henv (hid id h)) hsome
  · rw [TypeScript.validateAssemblyRequest_ok]
    exact assemblyRequestOk_iff (fun id h => validRequestId_iff (hid id h)) fun _ _ => rfl

end Assembly

namespace Demo

def guardedTarget : AssemblyTarget where
  targetIndex := 1
  kind := .guarded
  authAddress := "A"
  userSignature := "aa"
  userSourceRequestId := "sdk-2"
  cosignerSignature := "bb"
  cosignerSourceRequestId := "sdk-3"

/-- A guarded target beside a passthrough item. -/
def guardedAssembly : AssemblyRequest where
  requestId := "sdk-1"
  groupBytesHex := ["5458", "5459"]
  targets := [guardedTarget]
  passthrough := [{ targetIndex := 0, signedTxnHex := "82" }]

theorem assemblyValidators_agree_guarded : AssemblyExactCover guardedAssembly ∧
    Python.validateAssemblyRequest env guardedAssembly = .ok () ∧
    TypeScript.validateAssemblyRequest env guardedAssembly = .ok () := by
  have hid : ∀ id ∈ guardedAssembly.ids, overIdAlphabet id := by
    have hall : guardedAssembly.ids.all (fun id => id.toList.all isIdChar) = true := by decide +kernel
    intro id h
    exact List.all_eq_true.mp (List.all_eq_true.mp hall id h)
  obtain ⟨hgo, hpython, hts⟩ := assemblyValidators_agree env env env knowsAscii_env hid
    (by simp [guardedAssembly, guardedTarget])
  have hcover : AssemblyExactCover guardedAssembly := hgo.mp (by decide +kernel)
  exact ⟨hcover, hpython.mpr hcover, hts.mpr hcover⟩

end Demo

/-! ### Sign entries -/

/-- The fields of each mode: the whole of them, and no field of another mode. -/
def SignRequest.Selects (r : SignRequest) : RequestMode → Prop
  | .passthrough => r.signedTxnHex ≠ "" ∧ r.txnBytesHex = "" ∧ r.authAddress = ""
  | .sign => r.signedTxnHex = "" ∧ r.txnBytesHex ≠ "" ∧ r.authAddress ≠ ""
  | .foreign => r.signedTxnHex = "" ∧ r.txnBytesHex ≠ "" ∧ r.authAddress = ""

/-- The lists of entries `/sign` is meant for. -/
structure SignEntriesOk (requests : List SignRequest) : Prop where
  ne_nil : requests ≠ []
  mode : ∀ r ∈ requests, ∃ mode, r.Selects mode
  scheme : ∀ r ∈ requests, r.pqScheme ≠ "" →
    r.Selects .foreign ∧ r.pqScheme = pqSchemeFalcon1024 ∧ r.lsigResources = none
  resources : ∀ r ∈ requests, ∀ x, r.lsigResources = some x →
    (r.Selects .foreign ∨ r.Selects .passthrough) ∧ x.inBounds
  unmixed : ¬ ((∃ r ∈ requests, r.Selects .passthrough) ∧ ∃ r ∈ requests, r.Selects .foreign)
  signable : (∃ r ∈ requests, r.Selects .foreign) → ∃ r ∈ requests, r.Selects .sign

section Entries

variable {requests : List SignRequest}

theorem signRequestMode_ok {err : String → SdkError} {r : SignRequest} {mode : RequestMode} :
    signRequestMode err r = .ok mode ↔ r.Selects mode := by
  unfold signRequestMode
  by_cases h1 : r.signedTxnHex = "" <;> by_cases h2 : r.txnBytesHex = "" <;>
    by_cases h3 : r.authAddress = "" <;> cases mode <;> simp [SignRequest.Selects, h1, h2, h3]

/-- An entry has at most one mode. -/
theorem SignRequest.Selects.unique {r : SignRequest} {mode mode' : RequestMode} (h : r.Selects mode)
    (h' : r.Selects mode') : mode = mode' := by
  have : signRequestMode Go.err r = .ok mode := signRequestMode_ok.mpr h
  rw [signRequestMode_ok.mpr h'] at this
  cases this
  rfl

/-- The modes of a list occur where an entry selects them. -/
theorem mem_modes : ∀ {requests : List SignRequest} {modes : List RequestMode},
    List.Forall₂ (fun r mode => r.Selects mode ∧ EntryOk r mode) requests modes →
    ∀ mode, mode ∈ modes ↔ ∃ r ∈ requests, r.Selects mode
  | [], _, .nil, mode => by simp
  | r :: requests, _, .cons (b := first) hfirst hrest, mode => by
    have hhead : mode = first ↔ r.Selects mode := by
      constructor
      · rintro rfl
        exact hfirst.1
      · intro h
        exact h.unique hfirst.1
    rw [List.mem_cons, mem_modes hrest mode, hhead]
    simp

/-- What an entry of a mode may declare, in the words of the contract. -/
theorem entryOk_iff {r : SignRequest} {mode : RequestMode} (h : r.Selects mode) :
    EntryOk r mode ↔ (r.pqScheme ≠ "" → r.Selects .foreign ∧ r.pqScheme = pqSchemeFalcon1024 ∧
        r.lsigResources = none) ∧
      ∀ x, r.lsigResources = some x → (r.Selects .foreign ∨ r.Selects .passthrough) ∧ x.inBounds := by
  have hmode : ∀ mode', mode = mode' ↔ r.Selects mode' := by
    intro mode'
    constructor
    · rintro rfl
      exact h
    · exact h.unique
  unfold EntryOk
  rw [hmode, hmode]
  constructor
  · rintro ⟨h1, h2, h3, h4, h5⟩
    refine ⟨fun hpq => ⟨h1 hpq, h2 hpq, h4 hpq⟩, fun x hx => ⟨h3 ?_, h5 x hx⟩⟩
    rw [hx]
    rfl
  · rintro ⟨h1, h2⟩
    refine ⟨fun hpq => (h1 hpq).1, fun hpq => (h1 hpq).2.1, fun hsome => ?_, fun hpq => (h1 hpq).2.2,
      fun x hx => (h2 x hx).2⟩
    obtain ⟨x, hx⟩ := Option.isSome_iff_exists.mp hsome
    exact (h2 x hx).1

/-- Entries that each select a mode have a list of modes. -/
theorem exists_modes : ∀ {requests : List SignRequest},
    (∀ r ∈ requests, ∃ mode, r.Selects mode ∧ EntryOk r mode) →
    ∃ modes, List.Forall₂ (fun r mode => r.Selects mode ∧ EntryOk r mode) requests modes
  | [], _ => ⟨[], .nil⟩
  | r :: requests, h => by
    obtain ⟨mode, hmode⟩ := h r (List.mem_cons_self ..)
    obtain ⟨modes, hmodes⟩ := exists_modes fun r' hr' => h r' (List.mem_cons_of_mem _ hr')
    exact ⟨mode :: modes, .cons hmode hmodes⟩

theorem entriesOk_iff : EntriesOk requests ↔ SignEntriesOk requests := by
  simp only [EntriesOk, signRequestMode_ok]
  constructor
  · rintro ⟨hne, modes, hmodes, hmix, hsign⟩
    have hentry : ∀ r ∈ requests, ∃ mode, r.Selects mode ∧ EntryOk r mode := by
      intro r hr
      obtain ⟨hlen, hall⟩ := List.forall₂_iff_get.mp hmodes
      obtain ⟨i, hi, rfl⟩ := List.getElem_of_mem hr
      exact ⟨_, hall i hi (hlen ▸ hi)⟩
    rw [mem_modes hmodes, mem_modes hmodes] at hmix hsign
    refine ⟨hne, fun r hr => ?_, fun r hr => ?_, fun r hr => ?_, hmix, fun hforeign => ?_⟩
    · obtain ⟨mode, hmode, -⟩ := hentry r hr
      exact ⟨mode, hmode⟩
    · obtain ⟨mode, hmode, hok⟩ := hentry r hr
      exact ((entryOk_iff hmode).mp hok).1
    · obtain ⟨mode, hmode, hok⟩ := hentry r hr
      exact ((entryOk_iff hmode).mp hok).2
    · by_contra hnone
      exact hsign ⟨hnone, hforeign⟩
  · intro h
    have hentry : ∀ r ∈ requests, ∃ mode, r.Selects mode ∧ EntryOk r mode := by
      intro r hr
      obtain ⟨mode, hmode⟩ := h.mode r hr
      exact ⟨mode, hmode, (entryOk_iff hmode).mpr ⟨h.scheme r hr, h.resources r hr⟩⟩
    obtain ⟨modes, hmodes⟩ := exists_modes hentry
    refine ⟨h.ne_nil, modes, hmodes, ?_, ?_⟩
    · rw [mem_modes hmodes, mem_modes hmodes]
      exact h.unmixed
    · rw [mem_modes hmodes, mem_modes hmodes]
      rintro ⟨hnone, hforeign⟩
      exact hnone (h.signable hforeign)

/-- **The three validators of sign entries agree.** Go's also checks the id of
the group request. -/
theorem signEntryValidators_agree (go python typescript : Env) (id : String) :
    (Go.validateGroupSignRequest go { requestId := id, requests := requests } = .ok () ↔
        ValidRequestId id ∧ SignEntriesOk requests) ∧
      (Python.validateSignEntriesOf python requests = .ok () ↔ SignEntriesOk requests) ∧
      (TypeScript.validateSignRequests typescript requests = .ok () ↔ SignEntriesOk requests) := by
  have hgo : ∀ x : LogicSigResourceUsage,
      mapErr (SdkError.wrap "invalid lsig_resources: ") (Go.validateResources x) = .ok () ↔ x.inBounds := by
    intro x
    rw [mapErr_ok, Go.validateResources_ok]
  refine ⟨?_, ?_, ?_⟩
  · unfold Go.validateGroupSignRequest Go.validateSignRequest
    rw [seq_eq_ok, Go.validateSignRequestId_ok, validateSignEntries_ok hgo, entriesOk_iff]
  · unfold Python.validateSignEntriesOf
    rw [validateSignEntries_ok fun _ => validateLsigResources_ok, entriesOk_iff]
  · unfold TypeScript.validateSignRequests
    rw [validateSignEntries_ok fun _ => validateLsigResources_ok, entriesOk_iff]

end Entries

end AplaneSdk
