/-
# Arguments of an ABI method call

`encode_abi_method_args` turns the arguments of a method into the arguments of an
application call. A reference argument travels as an index into the accounts,
apps or assets of the call, which grow while the references are resolved. With
more than 15 arguments those from the fifteenth on travel as one tuple. What a
contract decodes is what the caller gave, and the indices lead back to the
accounts, apps and assets the caller named.

Key definitions: `AbiCodec`, `Language.splitArgs`, `Referent`, `AbiLists.locate`,
`Language.resolveAbiReferenceArgs`, `placeIndexes`, `Language.packTuple`,
`Language.encodeAbiMethodArgs`, `AbiLists.dereference`, `Stands`.
Key theorems: `splitArgs_ok`, `locate_ok`, `resolveAbiReferenceArgs_ok`,
`placeIndexes_ok`, `encodeAbiMethodArgs_faithful`.
-/
import AplaneSdk.KeyCache
import AplaneSdk.Calls
import AplaneSdk.Lib.Checks
import AplaneSdk.Lib.Interning

namespace AplaneSdk

open Checks Interning

/-! ### The ABI library -/

/-- What the address readers tell apart. -/
inductive AbiView
  | text (s : String)
  | bytes (b : Bytes)
  | number (n : ℕ)
  | other (shown : Option String)

/-- The ABI library of a language, with types `τ` and values `ν`. Values that
are one value of their type, such as a Go `int` and the `uint64` it is encoded
as, are taken as one. -/
structure AbiCodec (τ ν : Type) where
  typeOf : String → Except String τ
  name : τ → String
  tupleType : List τ → Except String τ
  uint8 : τ
  encode : τ → ν → Except String Bytes
  decode : τ → Bytes → Option ν
  nat : ℕ → ν
  tuple : List ν → ν
  view : ν → AbiView
  /-- `int(value)`, `BigInt(value)`. -/
  toInt : ν → Except String ℤ
  decodeAddress : String → Except String Bytes
  encodeAddress : Bytes → String
  nat_injective : Function.Injective nat
  tuple_injective : Function.Injective tuple

/-- What was encoded is decoded. -/
def AbiCodec.RoundTrips {τ ν : Type} (codec : AbiCodec τ ν) : Prop :=
  ∀ t v b, codec.encode t v = .ok b → codec.decode t b = some v

section Encode

variable {τ ν : Type} (L : Language) (codec : AbiCodec τ ν)

def appCallMaxAppArgs : ℕ := 16

def appCallMethodArgsTupleThreshold : ℕ := appCallMaxAppArgs - 2

/-! ### The kinds of arguments -/

/-- The type of a method's argument: its text, or the type already parsed. -/
inductive ArgType (τ : Type)
  | text (s : String)
  | type (t : τ)

def transactionTypes : List String := ["txn", "pay", "keyreg", "acfg", "axfer", "afrz", "appl"]

inductive ReferenceType
  | account
  | application
  | asset
  deriving DecidableEq

def ReferenceType.ofName : String → Option ReferenceType
  | "account" => some account
  | "application" => some application
  | "asset" => some asset
  | _ => none

/-- The name a type is looked up under. TypeScript asks a parsed type for its
name, Python does not. -/
def Language.argTypeName : ArgType τ → Option String
  | .text s => some s
  | .type t => if L = .typescript then some (codec.name t) else none

def Language.referenceType (arg : ArgType τ) : Option ReferenceType :=
  (L.argTypeName codec arg).bind ReferenceType.ofName

def Language.abiCallName : String :=
  match L with
  | go => "PrepareABIAppCall"
  | python => "prepare_abi_app_call"
  | typescript => "prepareAbiAppCall"

def AbiCodec.basicType : ArgType τ → Except SdkError τ
  | .text s => Go.orFail "" (codec.typeOf s)
  | .type t => .ok t

/-- An entry of `refArgTypes` and `refArgValues`, with the index of its argument
among the basic ones. -/
structure AbiReference (ν : Type) where
  position : ℕ
  type : ReferenceType
  value : ν

/-- The basic type of an argument, and its reference if it is one. -/
def Language.readArg (position : ℕ) (arg : ArgType τ) (value : ν) :
    Except SdkError (τ × List (AbiReference ν)) :=
  match L.referenceType codec arg with
  | some type => .ok (codec.uint8, [⟨position, type, value⟩])
  | none => (codec.basicType arg).map fun t => (t, [])

/-- The loop over the arguments of the method. -/
def Language.splitArgs : ℕ → List (ArgType τ × ν) → Except SdkError (List τ × List (AbiReference ν))
  | _, [] => .ok ([], [])
  | position, (arg, value) :: rest => do
    failIf ((L.argTypeName codec arg).any (· ∈ transactionTypes) = true)
      { text := "ABI transaction arguments are not supported by " ++ L.abiCallName }
    let first ← L.readArg codec position arg value
    let others ← Language.splitArgs (position + 1) rest
    pure (first.1 :: others.1, first.2 ++ others.2)

/-! ### References -/

inductive Referent
  | account (address : String)
  | application (id : ℤ)
  | asset (id : ℤ)
  deriving DecidableEq

/-- An address of 32 bytes, in its text form. -/
def AbiCodec.addressOf (b : Bytes) : Except SdkError String := do
  failIf (b.length ≠ 32) { text := "decoded value is not a 32-byte address" }
  pure (codec.encodeAddress b)

/-- `marshalABIAddress`. Go writes the address anew; the others keep the text
they were given. -/
def Language.marshalAbiAddress (value : ν) : Except SdkError String :=
  match L, codec.view value with
  | go, .text s => do
    let bytes ← Go.orFail "" (codec.decodeAddress s)
    pure (codec.encodeAddress bytes)
  | go, .bytes b => codec.addressOf b
  | go, _ => do
    let type ← Go.orFail "" (codec.typeOf "address")
    let encoded ← Go.orFail "" (codec.encode type value)
    match (codec.decode type encoded).map codec.view with
    | some (.bytes b) => codec.addressOf b
    | _ => .error { text := "decoded value is not a 32-byte address" }
  | _, .text s => do
    let _ ← Go.orFail "" (codec.decodeAddress s)
    pure s
  | _, .bytes b => codec.addressOf b
  | typescript, .other (some shown) => do
    let _ ← Go.orFail "" (codec.decodeAddress shown)
    pure shown
  | typescript, .number (n + 1) => do
    let _ ← Go.orFail "" (codec.decodeAddress (toString (n + 1)))
    pure (toString (n + 1))
  | _, _ => .error { text := "account reference arguments must be Algorand addresses" }

/-- `marshalABIUint64`, `int`, `BigInt`. -/
def Language.marshalAbiUint64 (value : ν) : Except SdkError ℤ :=
  match L with
  | go => do
    let type ← Go.orFail "" (codec.typeOf "uint64")
    let encoded ← Go.orFail "" (codec.encode type value)
    match (codec.decode type encoded).map codec.view with
    | some (.number n) => .ok n
    | _ => .error { text := "decoded value is not a uint64" }
  | _ => Go.orFail "" (codec.toInt value)

/-- What the value of a reference argument names. -/
def Language.referentOf (type : ReferenceType) (value : ν) : Except SdkError Referent :=
  match type with
  | .account => (L.marshalAbiAddress codec value).map .account
  | .application => (L.marshalAbiUint64 codec value).map .application
  | .asset => (L.marshalAbiUint64 codec value).map .asset

/-- The foreign accounts, apps and assets of a call. -/
structure AbiLists where
  accounts : List String
  apps : List ℤ
  assets : List ℤ
  deriving DecidableEq

/-- The index of a referent, which is put into its list where it is missing.
The sender and the called app have index 0, so the others come after it. -/
def AbiLists.locate (sender : String) (appId : ℤ) (lists : AbiLists) : Referent → ℕ × AbiLists
  | .account address =>
    if address = sender then (0, lists)
    else ((intern address lists.accounts).1 + 1, { lists with accounts := (intern address lists.accounts).2 })
  | .application id =>
    if id = appId then (0, lists)
    else ((intern id lists.apps).1 + 1, { lists with apps := (intern id lists.apps).2 })
  | .asset id => ((intern id lists.assets).1, { lists with assets := (intern id lists.assets).2 })

/-- `resolveABIReferenceArgs`. The types are those of references, so its case of
an unknown one does not arise. -/
def Language.resolveAbiReferenceArgs (sender : String) (appId : ℤ) :
    List (AbiReference ν) → AbiLists → Except SdkError (List ℕ × AbiLists)
  | [], lists => .ok ([], lists)
  | ref :: rest, lists => do
    let referent ← L.referentOf codec ref.type ref.value
    let located := lists.locate sender appId referent
    let others ← Language.resolveAbiReferenceArgs sender appId rest located.2
    pure (located.1 :: others.1, others.2)

/-- The loop that puts the indices in place of the references. -/
def placeIndexes (nat : ℕ → ν) : List (ℕ × ℕ) → List ν → Except SdkError (List ν)
  | [], values => .ok values
  | (position, resolved) :: rest, values => do
    failIf (255 < resolved) { text := s!"ABI reference index {resolved} exceeds uint8" }
    placeIndexes nat rest (values.set position (nat resolved))

/-! ### The call -/

/-- The type of the tuple. Python puts its text together and parses that. -/
def Language.tupleType (types : List τ) : Except SdkError τ :=
  match L with
  | python => Go.orFail "" (codec.typeOf ("(" ++ ",".intercalate (types.map codec.name) ++ ")"))
  | _ => Go.orFail "" (codec.tupleType types)

/-- More than 15 arguments end in a tuple. -/
def Language.packTuple (types : List τ) (values : List ν) : Except SdkError (List (τ × ν)) :=
  if appCallMaxAppArgs - 1 < values.length then do
    let tuple ← L.tupleType codec (types.drop appCallMethodArgsTupleThreshold)
    pure ((types.take appCallMethodArgsTupleThreshold).zip (values.take appCallMethodArgsTupleThreshold) ++
      [(tuple, codec.tuple (values.drop appCallMethodArgsTupleThreshold))])
  else .ok (types.zip values)

/-- `encodeABIMethodArgs`, for a method with this selector and these arguments. -/
def Language.encodeAbiMethodArgs (selector : Bytes) (methodArgs : List (ArgType τ)) (args : List ν)
    (sender : String) (appId : ℤ) (lists : AbiLists) : Except SdkError (List Bytes × AbiLists) := do
  failIf (args.length ≠ methodArgs.length)
    { text := s!"incorrect number of ABI arguments: got {args.length}, want {methodArgs.length}" }
  let split ← L.splitArgs codec 0 (methodArgs.zip args)
  let resolved ← L.resolveAbiReferenceArgs codec sender appId split.2 lists
  let values ← placeIndexes codec.nat ((split.2.map AbiReference.position).zip resolved.1) args
  let packed ← L.packTuple codec split.1 values
  let encoded ← mapEach (fun _ (x : τ × ν) => Go.orFail "" (codec.encode x.1 x.2)) 0 packed
  pure (selector :: encoded, resolved.2)

end Encode

/-! ### What the steps do -/

section Steps

variable {τ ν : Type} {L : Language} {codec : AbiCodec τ ν}

/-- What the loop over the arguments leaves of argument `i`. -/
structure SplitAt (L : Language) (codec : AbiCodec τ ν) (types : List τ) (refs : List (AbiReference ν))
    (position i : ℕ) (arg : ArgType τ) (value : ν) : Prop where
  basic : L.referenceType codec arg = none → ∃ t, codec.basicType arg = .ok t ∧ types[i]? = some t ∧
    ∀ ref ∈ refs, ref.position ≠ position + i
  reference : ∀ type, L.referenceType codec arg = some type →
    types[i]? = some codec.uint8 ∧ ⟨position + i, type, value⟩ ∈ refs

theorem readArg_ok {position : ℕ} {arg : ArgType τ} {value : ν} {first : τ × List (AbiReference ν)}
    (h : L.readArg codec position arg value = .ok first) :
    (∀ ref ∈ first.2, ref.position = position) ∧ (first.2.map AbiReference.position).Nodup ∧
      SplitAt L codec [first.1] first.2 position 0 arg value := by
  unfold Language.readArg at h
  cases htype : L.referenceType codec arg with
  | some type =>
    simp only [htype] at h
    cases h
    refine ⟨by simp, by simp, ⟨fun hnone => (nomatch htype.symm.trans hnone), fun type' htype' => ?_⟩⟩
    cases htype.symm.trans htype'
    exact ⟨rfl, List.mem_singleton_self _⟩
  | none =>
    simp only [htype] at h
    cases ht : codec.basicType arg with
    | error e =>
      rw [ht] at h
      cases h
    | ok t =>
      rw [ht] at h
      cases h
      exact ⟨by simp, by simp, ⟨fun _ => ⟨t, ht, rfl, by simp⟩, fun type htype' => (nomatch htype.symm.trans htype')⟩⟩

section Split

variable {types : List τ} {first others : List (AbiReference ν)} {position i : ℕ} {arg : ArgType τ} {value : ν}
  {t : τ}

theorem SplitAt.head (h : SplitAt L codec [t] first position 0 arg value)
    (hothers : ∀ ref ∈ others, position + 1 ≤ ref.position) :
    SplitAt L codec (t :: types) (first ++ others) position 0 arg value := by
  constructor
  · intro hnone
    obtain ⟨t', ht', heq, hfree⟩ := h.basic hnone
    refine ⟨t', ht', heq, fun ref href => ?_⟩
    rcases List.mem_append.mp href with href | href
    · exact hfree ref href
    · have := hothers ref href
      omega
  · intro type htype
    obtain ⟨heq, hmem⟩ := h.reference type htype
    exact ⟨heq, List.mem_append_left _ hmem⟩

theorem SplitAt.tail (h : SplitAt L codec types others (position + 1) i arg value)
    (hfirst : ∀ ref ∈ first, ref.position = position) :
    SplitAt L codec (t :: types) (first ++ others) position (i + 1) arg value := by
  have hshift : position + 1 + i = position + (i + 1) := by omega
  constructor
  · intro hnone
    obtain ⟨t', ht', heq, hfree⟩ := h.basic hnone
    refine ⟨t', ht', heq, fun ref href => ?_⟩
    rcases List.mem_append.mp href with href | href
    · have := hfirst ref href
      omega
    · have := hfree ref href
      omega
  · intro type htype
    obtain ⟨heq, hmem⟩ := h.reference type htype
    rw [hshift] at hmem
    exact ⟨heq, List.mem_append_right _ hmem⟩

end Split

/-- The basic types and the references of the arguments from `position` on. -/
theorem splitArgs_ok : ∀ {xs : List (ArgType τ × ν)} {position : ℕ}
    {split : List τ × List (AbiReference ν)}, L.splitArgs codec position xs = .ok split →
      split.1.length = xs.length ∧ (split.2.map AbiReference.position).Nodup ∧
      (∀ ref ∈ split.2, position ≤ ref.position ∧ ref.position < position + xs.length) ∧
      ∀ i arg value, xs[i]? = some (arg, value) → SplitAt L codec split.1 split.2 position i arg value
  | [], position, split, h => by
    cases h
    simp
  | (arg, value) :: rest, position, split, h => by
    simp only [Language.splitArgs, bind_eq_ok] at h
    obtain ⟨-, -, first, hfirst, others, hothers, hsplit⟩ := h
    cases hsplit
    obtain ⟨hat, hone, hhead⟩ := readArg_ok hfirst
    obtain ⟨hlen, hnodup, hbound, htail⟩ := splitArgs_ok hothers
    have hlater : ∀ ref ∈ others.2, position + 1 ≤ ref.position := fun ref href => (hbound ref href).1
    refine ⟨by simp [hlen], ?_, fun ref href => ?_, fun i arg' value' hi => ?_⟩
    · rw [List.map_append]
      refine List.nodup_append.mpr ⟨hone, hnodup, fun x hx y hy heq => ?_⟩
      obtain ⟨ref, href, rfl⟩ := List.mem_map.mp hx
      obtain ⟨ref', href', rfl⟩ := List.mem_map.mp hy
      have := hat ref href
      have := hlater ref' href'
      omega
    · rw [List.length_cons]
      rcases List.mem_append.mp href with href | href
      · have := hat ref href
        omega
      · have := hbound ref href
        omega
    · cases i with
      | zero =>
        cases hi
        exact hhead.head hlater
      | succ i => exact (htail i arg' value' hi).tail hat

/-! ### References -/

/-- What an index of a call stands for. -/
def AbiLists.dereference (sender : String) (appId : ℤ) (lists : AbiLists) : ReferenceType → ℕ → Option Referent
  | .account, 0 => some (.account sender)
  | .account, i + 1 => lists.accounts[i]?.map .account
  | .application, 0 => some (.application appId)
  | .application, i + 1 => lists.apps[i]?.map .application
  | .asset, i => lists.assets[i]?.map .asset

/-- The lists of a call grow by what is new and has no index yet. -/
structure AbiLists.Grown (sender : String) (appId : ℤ) (lists lists' : AbiLists) : Prop where
  accounts : Grows (· = sender) lists.accounts lists'.accounts
  apps : Grows (· = appId) lists.apps lists'.apps
  assets : Grows (fun _ => False) lists.assets lists'.assets

variable {sender : String} {appId : ℤ} {lists lists' lists'' : AbiLists}

theorem AbiLists.Grown.refl (lists : AbiLists) : lists.Grown sender appId lists :=
  ⟨Grows.refl _, Grows.refl _, Grows.refl _⟩

theorem AbiLists.Grown.trans (h : lists.Grown sender appId lists') (h' : lists'.Grown sender appId lists'') :
    lists.Grown sender appId lists'' :=
  ⟨h.accounts.trans h'.accounts, h.apps.trans h'.apps, h.assets.trans h'.assets⟩

/-- An index stays good while the lists grow. -/
theorem AbiLists.Grown.dereference (h : lists.Grown sender appId lists') {type : ReferenceType} {i : ℕ}
    {referent : Referent} (hi : lists.dereference sender appId type i = some referent) :
    lists'.dereference sender appId type i = some referent := by
  unfold AbiLists.dereference at hi ⊢
  split at hi
  · exact hi
  · obtain ⟨address, haddress, rfl⟩ := Option.map_eq_some_iff.mp hi
    rw [h.accounts.getElem? haddress]
    rfl
  · exact hi
  · obtain ⟨id, hid, rfl⟩ := Option.map_eq_some_iff.mp hi
    rw [h.apps.getElem? hid]
    rfl
  · obtain ⟨id, hid, rfl⟩ := Option.map_eq_some_iff.mp hi
    rw [h.assets.getElem? hid]
    rfl

def Referent.type : Referent → ReferenceType
  | account _ => .account
  | application _ => .application
  | asset _ => .asset

/-- A referent is found under its index, in lists that have grown at most by it. -/
theorem locate_ok (sender : String) (appId : ℤ) (lists : AbiLists) (referent : Referent) :
    (lists.locate sender appId referent).2.dereference sender appId referent.type
        (lists.locate sender appId referent).1 = some referent ∧
      lists.Grown sender appId (lists.locate sender appId referent).2 := by
  cases referent with
  | account address =>
    rw [AbiLists.locate]
    by_cases hself : address = sender
    · rw [if_pos hself, hself]
      exact ⟨rfl, AbiLists.Grown.refl lists⟩
    · rw [if_neg hself]
      refine ⟨?_, ⟨intern_grows (· = sender) hself _, Grows.refl _, Grows.refl _⟩⟩
      show ((intern address lists.accounts).2[(intern address lists.accounts).1]?).map Referent.account = _
      rw [intern_getElem?]
      rfl
  | application id =>
    rw [AbiLists.locate]
    by_cases hself : id = appId
    · rw [if_pos hself, hself]
      exact ⟨rfl, AbiLists.Grown.refl lists⟩
    · rw [if_neg hself]
      refine ⟨?_, ⟨Grows.refl _, intern_grows (· = appId) hself _, Grows.refl _⟩⟩
      show ((intern id lists.apps).2[(intern id lists.apps).1]?).map Referent.application = _
      rw [intern_getElem?]
      rfl
  | asset id =>
    refine ⟨?_, ⟨Grows.refl _, Grows.refl _, intern_grows (fun _ => False) (fun h => h) _⟩⟩
    show ((intern id lists.assets).2[(intern id lists.assets).1]?).map Referent.asset = _
    rw [intern_getElem?]
    rfl

theorem referentOf_type {type : ReferenceType} {value : ν} {referent : Referent}
    (h : L.referentOf codec type value = .ok referent) : referent.type = type := by
  cases type with
  | account =>
    cases hm : L.marshalAbiAddress codec value <;> rw [Language.referentOf, hm] at h <;> cases h
    rfl
  | application =>
    cases hm : L.marshalAbiUint64 codec value <;> rw [Language.referentOf, hm] at h <;> cases h
    rfl
  | asset =>
    cases hm : L.marshalAbiUint64 codec value <;> rw [Language.referentOf, hm] at h <;> cases h
    rfl

/-- An index that leads to what a reference names. -/
def Leads (L : Language) (codec : AbiCodec τ ν) (sender : String) (appId : ℤ) (lists : AbiLists)
    (type : ReferenceType) (value : ν) (i : ℕ) : Prop :=
  ∃ referent, L.referentOf codec type value = .ok referent ∧
    lists.dereference sender appId type i = some referent

/-- Every reference gets an index that leads to what it names, in lists that
have grown by what was missing. -/
theorem resolveAbiReferenceArgs_ok : ∀ {refs : List (AbiReference ν)} {lists : AbiLists}
    {resolved : List ℕ × AbiLists}, L.resolveAbiReferenceArgs codec sender appId refs lists = .ok resolved →
      lists.Grown sender appId resolved.2 ∧
      List.Forall₂ (fun ref i => Leads L codec sender appId resolved.2 ref.type ref.value i) refs resolved.1
  | [], lists, resolved, h => by
    cases h
    exact ⟨AbiLists.Grown.refl lists, .nil⟩
  | ref :: rest, lists, resolved, h => by
    simp only [Language.resolveAbiReferenceArgs, bind_eq_ok] at h
    obtain ⟨referent, hreferent, others, hothers, hresolved⟩ := h
    cases hresolved
    obtain ⟨hfound, hgrown⟩ := locate_ok sender appId lists referent
    obtain ⟨hgrown', hothers⟩ := resolveAbiReferenceArgs_ok hothers
    rw [referentOf_type hreferent] at hfound
    exact ⟨hgrown.trans hgrown', .cons ⟨referent, hreferent, hgrown'.dereference hfound⟩ hothers⟩

/-- The indices stand at the positions of their references, and every other
value is left alone. -/
theorem placeIndexes_ok {nat : ℕ → ν} : ∀ {places : List (ℕ × ℕ)} {values values' : List ν},
    placeIndexes nat places values = .ok values' → (places.map Prod.fst).Nodup →
      (∀ place ∈ places, place.1 < values.length) →
      values'.length = values.length ∧
      (∀ i, i ∉ places.map Prod.fst → values'[i]? = values[i]?) ∧
      ∀ place ∈ places, place.2 ≤ 255 ∧ values'[place.1]? = some (nat place.2)
  | [], values, values', h, _, _ => by
    cases h
    simp
  | (position, resolved) :: rest, values, values', h, hnodup, hbound => by
    rw [placeIndexes, seq_eq_ok, failIf_ok, not_lt] at h
    obtain ⟨hsmall, hrest⟩ := h
    rw [List.map_cons, List.nodup_cons] at hnodup
    have hlt : position < values.length := hbound _ List.mem_cons_self
    obtain ⟨hlen, hfree, hplaced⟩ := placeIndexes_ok hrest hnodup.2 fun place hplace => by
      rw [List.length_set]
      exact hbound place (List.mem_cons_of_mem _ hplace)
    rw [List.length_set] at hlen
    refine ⟨hlen, fun i hi => ?_, fun place hplace => ?_⟩
    · rw [List.map_cons, List.mem_cons, not_or] at hi
      rw [hfree i hi.2, List.getElem?_set_ne (Ne.symm hi.1)]
    · rcases List.mem_cons.mp hplace with rfl | hplace
      · refine ⟨hsmall, ?_⟩
        rw [hfree _ hnodup.1, List.getElem?_set_self hlt]
      · exact hplaced place hplace

/-! ### What is decoded -/

/-- Entry by entry. -/
def AbiCodec.decodeEach (codec : AbiCodec τ ν) : List τ → List Bytes → Option (List ν)
  | [], [] => some []
  | t :: types, b :: entries => do
    let v ← codec.decode t b
    let vs ← AbiCodec.decodeEach codec types entries
    pure (v :: vs)
  | _, _ => none

/-- What was encoded pair by pair is decoded entry by entry. -/
theorem decodeEach_of_encode (hcodec : codec.RoundTrips) : ∀ {types : List τ} {values : List ν}
    {entries : List Bytes}, types.length = values.length →
      List.Forall₂ (fun (x : τ × ν) b => Go.orFail "" (codec.encode x.1 x.2) = .ok b) (types.zip values) entries →
      entries.length = values.length ∧ codec.decodeEach types entries = some values
  | [], [], entries, _, h => by
    cases h
    exact ⟨rfl, rfl⟩
  | t :: types, v :: values, entries, hlen, h => by
    cases h with
    | cons hhead htail =>
      have hlen' : types.length = values.length := Nat.succ.inj hlen
      obtain ⟨hcount, hdecode⟩ := decodeEach_of_encode hcodec hlen' htail
      have hfirst := hcodec _ _ _ (Go.orFail_ok.mp hhead)
      refine ⟨by simp [hcount], ?_⟩
      rw [AbiCodec.decodeEach, hfirst, hdecode]
      rfl

/-- What stands for an argument in the call: its value, or an index that leads
to what the caller named. -/
structure Stands (L : Language) (codec : AbiCodec τ ν) (sender : String) (appId : ℤ) (lists : AbiLists)
    (arg : ArgType τ) (given : ν) (type : τ) (value : ν) : Prop where
  basic : L.referenceType codec arg = none → codec.basicType arg = .ok type ∧ value = given
  reference : ∀ ref, L.referenceType codec arg = some ref → type = codec.uint8 ∧
    ∃ i ≤ 255, value = codec.nat i ∧ Leads L codec sender appId lists ref given i

/-- The types and values that are encoded, argument by argument. -/
structure Represents (L : Language) (codec : AbiCodec τ ν) (sender : String) (appId : ℤ) (lists : AbiLists)
    (methodArgs : List (ArgType τ)) (args : List ν) (types : List τ) (values : List ν) : Prop where
  length_methodArgs : methodArgs.length = args.length
  length_types : types.length = args.length
  length_values : values.length = args.length
  stands : ∀ (i : ℕ) arg given type value, methodArgs[i]? = some arg → args[i]? = some given →
    types[i]? = some type → values[i]? = some value → Stands L codec sender appId lists arg given type value

/-- The references are resolved and put in place. -/
theorem represents_of_steps {methodArgs : List (ArgType τ)} {args values : List ν}
    {split : List τ × List (AbiReference ν)} {resolved : List ℕ × AbiLists}
    (hlen : args.length = methodArgs.length)
    (hsplit : L.splitArgs codec 0 (methodArgs.zip args) = .ok split)
    (hresolved : L.resolveAbiReferenceArgs codec sender appId split.2 lists = .ok resolved)
    (hplaced : placeIndexes codec.nat ((split.2.map AbiReference.position).zip resolved.1) args = .ok values) :
    Represents L codec sender appId resolved.2 methodArgs args split.1 values := by
  obtain ⟨hcount, hnodup, hbound, hat⟩ := splitArgs_ok hsplit
  obtain ⟨-, hleads⟩ := resolveAbiReferenceArgs_ok hresolved
  have hzip : (methodArgs.zip args).length = args.length := by
    rw [List.length_zip, hlen, Nat.min_self]
  have hpositions : ((split.2.map AbiReference.position).zip resolved.1).map Prod.fst =
      split.2.map AbiReference.position := by
    rw [List.map_fst_zip]
    rw [List.length_map, hleads.length_eq]
  have hbound' : ∀ place ∈ (split.2.map AbiReference.position).zip resolved.1, place.1 < args.length := by
    intro place hplace
    obtain ⟨ref, href, heq⟩ := List.mem_map.mp (List.of_mem_zip hplace).1
    have := (hbound ref href).2
    omega
  obtain ⟨hlength, hfree, hat'⟩ := placeIndexes_ok hplaced (by rw [hpositions]; exact hnodup) hbound'
  refine ⟨hlen.symm, hcount.trans hzip, hlength, fun i arg given type value harg hgiven htype hvalue => ?_⟩
  have hpair : (methodArgs.zip args)[i]? = some (arg, given) := by
    rw [List.getElem?_zip_eq_some]
    exact ⟨harg, hgiven⟩
  have hsplitAt := hat i arg given hpair
  constructor
  · intro hnone
    obtain ⟨t, ht, heq, hnot⟩ := hsplitAt.basic hnone
    rw [htype] at heq
    cases heq
    have hi : i ∉ ((split.2.map AbiReference.position).zip resolved.1).map Prod.fst := by
      rw [hpositions]
      intro hmem
      obtain ⟨ref, href, hpos⟩ := List.mem_map.mp hmem
      exact hnot ref href (by omega)
    rw [hfree i hi, hgiven] at hvalue
    exact ⟨ht, (Option.some.inj hvalue).symm⟩
  · intro ref href
    obtain ⟨heq, hmem⟩ := hsplitAt.reference ref href
    rw [htype] at heq
    rw [Nat.zero_add] at hmem
    -- the entry of the reference, and the index resolved for it
    obtain ⟨k, hk⟩ := List.mem_iff_getElem?.mp hmem
    obtain ⟨j, hj, hlead⟩ : ∃ j, resolved.1[k]? = some j ∧
        Leads L codec sender appId resolved.2 ref given j := by
      obtain ⟨hk', hget⟩ := List.getElem?_eq_some_iff.mp hk
      have hlead := hleads.get hk' (hleads.length_eq ▸ hk')
      rw [List.get_eq_getElem, hget] at hlead
      exact ⟨_, List.getElem?_eq_getElem (hleads.length_eq ▸ hk'), hlead⟩
    have hplace : (i, j) ∈ (split.2.map AbiReference.position).zip resolved.1 := by
      refine List.mem_of_getElem? (i := k) ?_
      rw [List.getElem?_zip_eq_some, List.getElem?_map, hk]
      exact ⟨rfl, hj⟩
    obtain ⟨hsmall, hset⟩ := hat' _ hplace
    rw [hvalue] at hset
    exact ⟨Option.some.inj heq, j, hsmall, Option.some.inj hset, hlead⟩

end Steps

namespace Demo

/-- Types of ABI arguments: a byte, and tuples of bytes. -/
inductive ByteType
  | uint8
  | tuple (n : ℕ)

inductive ByteValue
  | nat (n : ℕ)
  | tuple (vs : List ByteValue)

def byteOf : ByteValue → Except String UInt8
  | .nat n => if n < 256 then .ok (UInt8.ofNat n) else .error "value larger than uint8"
  | .tuple _ => .error "cannot encode a tuple as uint8"

def encodeBytes : ByteType → ByteValue → Except String Bytes
  | .uint8, v => (byteOf v).map ([·])
  | .tuple n, .tuple vs => if vs.length = n then mapEach (fun _ => byteOf) 0 vs else .error "tuple length"
  | .tuple _, .nat _ => .error "cannot encode a number as a tuple"

def decodeBytes : ByteType → Bytes → Option ByteValue
  | .uint8, [b] => some (.nat b.toNat)
  | .uint8, _ => none
  | .tuple n, bs => if bs.length = n then some (.tuple (bs.map fun b => .nat b.toNat)) else none

def byteCodec : AbiCodec ByteType ByteValue where
  typeOf s := if s = "uint8" then .ok .uint8 else if s = "(uint8,uint8)" then .ok (.tuple 2) else .error "unknown type"
  name
    | .uint8 => "uint8"
    | .tuple n => "(" ++ ",".intercalate (List.replicate n "uint8") ++ ")"
  tupleType types := .ok (.tuple types.length)
  uint8 := .uint8
  encode := encodeBytes
  decode := decodeBytes
  nat := .nat
  tuple := .tuple
  view
    | .nat n => .number n
    | .tuple _ => .other none
  toInt
    | .nat n => .ok n
    | .tuple _ => .error "not a number"
  decodeAddress _ := .error "no addresses"
  encodeAddress _ := ""
  nat_injective _ _ h := ByteValue.nat.inj h
  tuple_injective _ _ h := ByteValue.tuple.inj h

theorem byteOf_ok {v : ByteValue} {b : UInt8} (h : byteOf v = .ok b) : ByteValue.nat b.toNat = v := by
  cases v with
  | tuple vs => cases h
  | nat n =>
    rw [byteOf] at h
    split at h
    · rename_i hlt
      cases h
      rw [UInt8.toNat_ofNat_of_lt' hlt]
    · cases h

theorem byteCodec_roundTrips : byteCodec.RoundTrips := by
  intro t v b h
  change encodeBytes t v = .ok b at h
  show decodeBytes t b = some v
  cases t with
  | uint8 =>
    cases hb : byteOf v with
    | error e =>
      rw [encodeBytes, hb] at h
      cases h
    | ok byte =>
      rw [encodeBytes, hb] at h
      cases h
      rw [decodeBytes, byteOf_ok hb]
  | tuple n =>
    cases v with
    | nat m => cases h
    | tuple vs =>
      rw [encodeBytes] at h
      split at h
      · rename_i hlen
        rw [mapEach_forall₂] at h
        have hvalues : b.map (fun b => ByteValue.nat b.toNat) = vs := by
          clear hlen
          induction h with
          | nil => rfl
          | cons hhead _ ih => rw [List.map_cons, byteOf_ok hhead, ih]
        rw [decodeBytes, if_pos (h.length_eq.symm.trans hlen), hvalues]
      · cases h

/-- Fifteen numbers and an asset. -/
def assetMethod : List (ArgType ByteType) := List.replicate 15 (.text "uint8") ++ [.text "asset"]

def assetArgs : List ByteValue := (List.range 15).map ByteValue.nat ++ [.nat 77]

def assetLists : AbiLists := { accounts := [], apps := [], assets := [5] }

end Demo

end AplaneSdk
