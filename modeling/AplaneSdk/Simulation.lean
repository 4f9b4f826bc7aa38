/-
# Simulating what was signed

A simulation signs a group the way a submission would and then shows the
signed group to the caller's own algod: first with an execution trace, and
once more without one if algod fails. The signer and algod are two parties,
so a run here is over the sum of their interfaces.

The signing flow is the ordinary one, which may leave foreign slots open, or
a guarded one. Whatever it returns is decoded before algod sees anything, and
an empty slot is refused there, also where the signer's report is silent
about it.

Key definitions: `SimulateRequest`, `Simulator`, `decodeExecutable`,
`simulateSignedGroup`, `simulateGuardedGroup`, `simulatePreparedGuardedGroup`,
`simulatePreparedGroup`, `SimulationEntry`, `Simulated`.
Key theorems: `decodeExecutable_ok`, `runs_simulateSignedGroup`,
`simulation_of_signed`, `simulated_isPrepared`.
-/
import AplaneSdk.Lib.Embedding
import AplaneSdk.AlgoKit
import AplaneSdk.EndToEnd
import AplaneSdk.SlotRequests

namespace AplaneSdk

open Checks Interaction Interaction.Prog

/-! ### What algod is asked -/

/-- An algod client, by identity. -/
structure Algod where
  id : ℕ
  deriving DecidableEq

/-- A signed transaction as it was decoded from `bytes`. -/
structure SignedTxn where
  bytes : Bytes
  txn : Txn
  deriving DecidableEq

/-- The request of a simulation, of one group. -/
structure SimulateRequest where
  txns : List SignedTxn
  allowEmptySignatures : Bool := false
  fixSigners : Bool := false
  allowMoreLogging : Bool
  /-- Whether the trace is enabled, with state changes. -/
  execTrace : Bool
  deriving DecidableEq

@[reducible] def algodIface : Iface := ⟨Algod × SimulateRequest, fun _ => Except String Json⟩

/-- The signer with its cosigners on one side, algod on the other. -/
@[reducible] def World : Iface := signer.sum algodIface

def simulateRequest (txns : List SignedTxn) (trace : Bool) : SimulateRequest where
  txns := txns
  allowMoreLogging := trace
  execTrace := trace

def apiFailed (why : String) : SdkError := { text := "simulation API call failed: " ++ why }

/-- Ask for a traced simulation, and for a plain one if that fails. -/
def simulateTransactions (algod : Algod) (txns : List SignedTxn) : Prog algodIface SdkError Json := do
  let traced ← query (I := algodIface) (algod, simulateRequest txns true)
  match traced with
  | .ok response => pure response
  | .error _ => do
    let plain ← query (I := algodIface) (algod, simulateRequest txns false)
    match plain with
    | .ok response => pure response
    | .error why => throw (apiFailed why)

/-! ### The signed group -/

structure SimulationResult where
  txIds : List String
  transactions : List String
  signedGroup : List String
  /-- As the signer sent it; Go and TypeScript hold it decoded. -/
  mutations : Option Json
  response : Json
  failed : Bool

structure GuardedSimulationResult where
  signing : GuardedSignResult
  simulation : SimulationResult

/-- What the SDKs do differently in a simulation. -/
structure Simulator where
  codec : Codec
  algodRequired : SdkError
  /-- The complaints about position `i` of the signed group. -/
  badHex : ℕ → String → SdkError
  notSigned : ℕ → SdkError
  undecodable : ℕ → String → SdkError
  txId : Txn → String
  /-- Whether the response says that the group failed. -/
  failed : Json → Except SdkError Bool
  /-- The test that the signer reports no foreign transactions. -/
  complete : Option Json → Except SdkError Unit
  /-- The entries of a prepared group at `/sign`. -/
  signRequests : List PreparedTransaction → Except SdkError (List SignRequest)

def positionText (i : ℕ) : String := s!"signed group position {i + 1}"

/-- Position `i` of the signed group. -/
def decodeSignedTxn (s : Simulator) (i : ℕ) (signedHex : String) : Except SdkError SignedTxn := do
  failIf (signedHex = "") { text := positionText i ++ " is empty" }
  let txn ← decodeSignedWith s.codec (s.badHex i signedHex) (s.notSigned i) (s.undecodable i) signedHex
  pure ⟨(s.codec.unhex signedHex).getD [], txn⟩

/-- `decodeExecutableSignedGroup`, and the loops in its place. -/
def decodeExecutable (s : Simulator) (signed : List String) : Except SdkError (List SignedTxn) := do
  failIf (signed = []) { text := "signed group is empty" }
  mapEach (decodeSignedTxn s) 0 signed

/-- The result of a simulation that was answered. -/
def simulationResult (s : Simulator) (signed : List String) (mutations : Option Json) (txns : List SignedTxn)
    (response : Json) : Except SdkError SimulationResult := do
  let failed ← s.failed response
  pure
    { txIds := txns.map (s.txId ·.txn)
      transactions := txns.map (hexEncode <| s.codec.sdk.encodeTxn ·.txn)
      signedGroup := signed
      mutations := mutations
      response := response
      failed := failed }

/-- `simulateSignedGroupWithContext`, `_simulate_signed_group`, `simulateSignedGroup`. -/
def simulateSignedGroup (s : Simulator) (algodClient : Option Algod) (signed : List String)
    (mutations : Option Json) : Prog algodIface SdkError SimulationResult :=
  match algodClient with
  | none => throw s.algodRequired
  | some algod => do
    let txns ← liftM (decodeExecutable s signed)
    let response ← simulateTransactions algod txns
    liftM (simulationResult s signed mutations txns response)

/-! ### Signing first -/

/-- The shape of all simulations: no step is taken without an algod client, and
what `sign` returns is simulated. -/
def simulateWith {α : Type} (s : Simulator) (algodClient : Option Algod) (sign : Flow α)
    (released : α → List String × Option Json) : Prog World SdkError (α × SimulationResult) := do
  liftM (failIf (algodClient = none) s.algodRequired)
  let signing ← sign.via Embedding.inl
  let simulation ← (simulateSignedGroup s algodClient (released signing).1 (released signing).2).via Embedding.inr
  pure (signing, simulation)

def simulateGuarded (s : Simulator) (algodClient : Option Algod) (sign : Flow GuardedSignResult) :
    Prog World SdkError GuardedSimulationResult := do
  let (signing, simulation) ← simulateWith s algodClient sign fun signing => (signing.signedGroup, none)
  pure ⟨signing, simulation⟩

/-- `SimulateGuardedGroup`, `simulate_guarded_group`, `simulateGuardedGroup`. -/
def simulateGuardedGroup (s : Simulator) (d : Dialect) (algodClient : Option Algod) (opts : GuardedSignOptions) :
    Prog World SdkError GuardedSimulationResult :=
  simulateGuarded s algodClient (signGuardedGroup d opts)

/-- `SimulatePreparedGuardedGroup`, `simulate_prepared_guarded_group`,
`simulatePreparedGuardedGroup`. -/
def simulatePreparedGuardedGroup (s : Simulator) (d : Dialect) (algodClient : Option Algod)
    (opts : PreparedGuardedGroupOptions) : Prog World SdkError GuardedSimulationResult :=
  simulateGuarded s algodClient (signPreparedGuardedGroup d opts)

/-- The ordinary way: the entries are signed, and a report of foreign
transactions ends the simulation. -/
def signComplete (s : Simulator) (d : Dialect) (user : Client) (requests : List SignRequest) :
    Flow GroupSignResponse := do
  let response ← signGroup d.calls user requests
  liftM (s.complete response.mutations)
  pure response

/-- `simulateRequestsWithContext`, the end of `simulate_prepared_group` and of
`simulatePreparedGroup`. -/
def simulateRequests (s : Simulator) (d : Dialect) (algodClient : Option Algod) (user : Client)
    (requests : List SignRequest) : Prog World SdkError SimulationResult := do
  let (_, simulation) ← simulateWith s algodClient (signComplete s d user requests)
    fun response => (response.signed, response.mutations)
  pure simulation

/-- `SimulatePreparedGroup`, `simulate_prepared_group`, `simulatePreparedGroup`. -/
def simulatePreparedGroup (s : Simulator) (d : Dialect) (algodClient : Option Algod) (user : Client)
    (items : List PreparedTransaction) : Prog World SdkError SimulationResult := do
  liftM (failIf (algodClient = none) s.algodRequired)
  let requests ← liftM (s.signRequests items)
  simulateRequests s d algodClient user requests

/-! ### The SDKs -/

/-- What the languages' libraries make of a response and of a transaction. -/
structure AlgodSdk where
  txId : Txn → String
  /-- The failure messages of the groups, as Go and TypeScript decode them. -/
  failureMessages : Json → List String
  /-- `int` of a text. -/
  intOfText : String → Option ℤ

def foreignText (shown : String) : String :=
  s!"signed simulation requires a complete group; signer returned {shown} foreign transaction(s)"

/-- The entries of a prepared group; `empty` and `wrap` are how the language
complains about the group and about a member. -/
def signRequestsOf (empty : SdkError) (wrap : String → SdkError → SdkError)
    (signRequest : PreparedTransaction → Except SdkError SignRequest) (items : List PreparedTransaction) :
    Except SdkError (List SignRequest) := do
  failIf (items = []) empty
  mapEach (fun i item => mapErr (wrap s!"prepared transaction {i}: ") (signRequest item)) 0 items

/-- The first group's message decides. -/
def AlgodSdk.firstFailed (a : AlgodSdk) (response : Json) : Bool :=
  (a.failureMessages response).head?.any (· ≠ "")

namespace Go

def completeReport (mutations : Option Json) : Except SdkError Unit :=
  match (decodeMutations mutations).getD none with
  | none => .ok ()
  | some r => failIf (0 < r.foreignCount) { text := foreignText (toString r.foreignCount) }

def simulator (env : Env) (a : AlgodSdk) (signRequest : PreparedTransaction → Except SdkError SignRequest) :
    Simulator where
  codec := codec env
  algodRequired := { text := "algod client is required" }
  badHex i s := { text := s!"{positionText i} is invalid hex: {env.hexError s}" }
  notSigned i := { text := positionText i ++ " is invalid msgpack: " }
  undecodable i why := { text := s!"{positionText i} is invalid msgpack: {why}" }
  txId := a.txId
  failed response := .ok (a.firstFailed response)
  complete := completeReport
  signRequests := signRequestsOf { text := "prepared group is empty" } SdkError.wrap signRequest

end Go

namespace Python

/-- `int(v)`. -/
def intOf (a : AlgodSdk) : Json → Except SdkError ℤ
  | .bool b => .ok (if b then 1 else 0)
  | .int n => .ok n
  | .float q => .ok (q.num.tdiv q.den)
  | .str s => match a.intOfText s with
    | some n => .ok n
    | none => .error { kind := .value, text := "" }
  | _ => .error languageError

/-- `int((mutations or {}).get("foreign_count", 0))`. -/
def foreignCount (a : AlgodSdk) (mutations : Option Json) : Except SdkError ℤ :=
  match mutations with
  | none => .ok 0
  | some m =>
    if m.truthy false = false then .ok 0
    else match m with
      | .obj _ => intOf a ((m.get? "foreign_count").getD (.int 0))
      | _ => .error languageError

/-- A negative count ends the simulation as well. -/
def completeReport (a : AlgodSdk) (mutations : Option Json) : Except SdkError Unit := do
  let count ← foreignCount a mutations
  failIf (count ≠ 0) { text := foreignText (toString count) }

/-- `a or b` of two members. -/
def orMember (m : Json) (name name' : String) : Option Json :=
  match (m.get? name).filter (·.truthy false) with
  | some v => some v
  | none => m.get? name'

/-- The failure message of the first group; both spellings of the members are read. -/
def simulationFailed (response : Json) : Except SdkError Bool :=
  match response with
  | .obj _ => match (orMember response "txn-groups" "txn_groups").filter (·.truthy false) with
    | none => .ok false
    | some (.arr (.obj members :: _)) =>
      .ok ((orMember (.obj members) "failure-message" "failure_message").any (·.truthy false))
    | some _ => .error languageError
  | _ => signerError "simulation API returned an invalid response"

def simulator (env : Env) (a : AlgodSdk) (signRequest : PreparedTransaction → Except SdkError SignRequest) :
    Simulator where
  codec := codec env
  algodRequired := { kind := .value, text := "algod_client is required" }
  badHex i s := { text := s!"{positionText i} is invalid: {env.hexError s}" }
  notSigned i := { text := positionText i ++ " does not contain a signed transaction" }
  undecodable i why := { text := s!"{positionText i} is invalid: {why}" }
  txId := a.txId
  failed := simulationFailed
  complete := completeReport a
  signRequests := signRequestsOf { kind := .value, text := "prepared group is empty" }
    (fun label e => { kind := .value, text := label ++ e.text }) signRequest

end Python

namespace TypeScript

/-- A report that is falsy is none; `foreignCount` is read where `foreign_count` is missing. -/
def completeReport (env : Env) (mutations : Option Json) : Except SdkError Unit :=
  match mutations with
  | none => .ok ()
  | some m =>
    if m.truthy true = false then .ok ()
    else do
      let count := coalesce (m.get? "foreign_count") (m.get? "foreignCount")
      let positive ← positive env count
      failIf (positive = true) { text := foreignText (env.showJson (count.getD .null)) }

def simulator (env : Env) (a : AlgodSdk) (signRequest : PreparedTransaction → Except SdkError SignRequest) :
    Simulator where
  codec := codec env
  algodRequired := { text := "algodClient is required" }
  badHex i s := { text := s!"{positionText i} is invalid: {hexToBytesError s}" }
  notSigned i := { text := positionText i ++ " is invalid: " }
  undecodable i why := { text := s!"{positionText i} is invalid: {why}" }
  txId := a.txId
  failed response := .ok (a.firstFailed response)
  complete := completeReport env
  signRequests := signRequestsOf { text := "prepared group is empty" } (fun label e => { text := label ++ e.text })
    signRequest

end TypeScript

def Language.simulator (env : Env) (a : AlgodSdk)
    (signRequest : PreparedTransaction → Except SdkError SignRequest) : Language → Simulator
  | go => Go.simulator env a signRequest
  | python => Python.simulator env a signRequest
  | typescript => TypeScript.simulator env a signRequest

/-! ### Decoding the signed group -/

section Decoding

variable {s : Simulator}

/-- What a position of the signed group decodes to. -/
def Decodes (codec : Codec) (signedHex : String) (x : SignedTxn) : Prop :=
  signedHex ≠ "" ∧ codec.unhex signedHex = some x.bytes ∧ codec.sdk.decodeSigned x.bytes = .ok (some x.txn)

theorem Decodes.inner {codec : Codec} {signedHex : String} {x : SignedTxn} (h : Decodes codec signedHex x) :
    codec.inner signedHex = some x.txn := by
  obtain ⟨-, hbytes, hdecoded⟩ := h
  simp only [Codec.inner, hbytes, hdecoded]

theorem decodeSignedTxn_ok {i : ℕ} {signedHex : String} {x : SignedTxn} :
    decodeSignedTxn s i signedHex = .ok x ↔ Decodes s.codec signedHex x := by
  simp only [decodeSignedTxn, bind_eq_ok (α := Txn), seq_eq_ok, failIf_ok, decodeSignedWith_ok, pure_eq_ok]
  refine and_congr_right fun hne => ?_
  constructor
  · rintro ⟨txn, hinner, rfl⟩
    unfold Codec.inner at hinner
    split at hinner
    · cases hinner
    · rename_i bytes hbytes
      split at hinner
      · rename_i found hdecoded
        refine ⟨by rw [hbytes]; rfl, ?_⟩
        rw [hbytes, Option.getD_some, hdecoded, hinner]
      · cases hinner
  · rintro ⟨hbytes, hdecoded⟩
    refine ⟨x.txn, Decodes.inner ⟨hne, hbytes, hdecoded⟩, ?_⟩
    rw [hbytes, Option.getD_some]

/-- The group decodes when it has members and each of them does. -/
theorem decodeExecutable_ok {signed : List String} {txns : List SignedTxn} :
    decodeExecutable s signed = .ok txns ↔ signed ≠ [] ∧ List.Forall₂ (Decodes s.codec) signed txns := by
  simp only [decodeExecutable, seq_eq_ok, failIf_ok]
  refine and_congr_right fun _ => mapEach_rel fun i signedHex x => ?_
  exact decodeSignedTxn_ok

theorem inner_of_decodes {codec : Codec} {signed : List String} {txns : List SignedTxn}
    (h : List.Forall₂ (Decodes codec) signed txns) : signed.map codec.inner = (txns.map (·.txn)).map some := by
  induction h with
  | nil => rfl
  | cons hhead _ ih => rw [List.map_cons, hhead.inner, ih, List.map_cons, List.map_cons]

end Decoding

/-! ### Runs of a simulation -/

/-- The questions of a simulation of `txns` and its outcome: one with a trace,
and one without after the first failed. -/
inductive Simulated (algod : Algod) (txns : List SignedTxn) : Trace algodIface → Except String Json → Prop
  | traced (response : Json) :
    Simulated algod txns [⟨(algod, simulateRequest txns true), .ok response⟩] (.ok response)
  | plain (why : String) (reply : Except String Json) :
    Simulated algod txns
      [⟨(algod, simulateRequest txns true), .error why⟩, ⟨(algod, simulateRequest txns false), reply⟩] reply

section Runs

variable {s : Simulator} {algod : Algod} {txns : List SignedTxn} {t : Trace algodIface}

theorem runs_simulateTransactions {r : Except SdkError Json} :
    Runs (simulateTransactions algod txns) t r ↔
      ∃ reply, Simulated algod txns t reply ∧ r = reply.mapError apiFailed := by
  constructor
  · rintro ⟨traced, t₁, rfl, h⟩
    cases traced with
    | ok response =>
      obtain ⟨rfl, rfl⟩ := h
      exact ⟨_, .traced response, rfl⟩
    | error why =>
      obtain ⟨plain, t₂, rfl, h⟩ := h
      cases plain with
      | ok response =>
        obtain ⟨rfl, rfl⟩ := h
        exact ⟨_, .plain why _, rfl⟩
      | error why' =>
        obtain ⟨rfl, rfl⟩ := h
        exact ⟨_, .plain why _, rfl⟩
  · rintro ⟨reply, hsimulated, rfl⟩
    cases hsimulated with
    | traced response => exact ⟨.ok response, [], rfl, rfl, rfl⟩
    | plain why =>
      refine ⟨.error why, [_], rfl, reply, [], rfl, ?_⟩
      cases reply <;> exact ⟨rfl, rfl⟩

/-- Every question is about the whole group, with its own signatures. -/
theorem Simulated.request {reply : Except String Json} (h : Simulated algod txns t reply) {e : Event algodIface}
    (he : e ∈ t) : ∃ trace, e.op = (algod, simulateRequest txns trace) := by
  cases h with
  | traced response =>
    rw [List.mem_singleton.mp he]
    exact ⟨true, rfl⟩
  | plain why reply =>
    rcases List.mem_cons.mp he with rfl | he
    · exact ⟨true, rfl⟩
    · rw [List.mem_singleton.mp he]
      exact ⟨false, rfl⟩

/-- A group that does not decode is not shown to algod. -/
theorem runs_simulateSignedGroup {signed : List String} {mutations : Option Json}
    {r : Except SdkError SimulationResult} :
    Runs (simulateSignedGroup s (some algod) signed mutations) t r ↔
      (∃ e, decodeExecutable s signed = .error e ∧ t = [] ∧ r = .error e) ∨
        ∃ txns reply, decodeExecutable s signed = .ok txns ∧ Simulated algod txns t reply ∧
          r = (reply.mapError apiFailed).bind (simulationResult s signed mutations txns) := by
  rw [simulateSignedGroup, runs_lift_bind]
  refine or_congr_right (exists_congr fun txns => ?_)
  rw [runs_bind_lift]
  constructor
  · rintro ⟨hdecoded, _, hasked, rfl⟩
    obtain ⟨reply, hsimulated, rfl⟩ := runs_simulateTransactions.mp hasked
    exact ⟨reply, hdecoded, hsimulated, rfl⟩
  · rintro ⟨reply, hdecoded, hsimulated, rfl⟩
    exact ⟨hdecoded, _, runs_simulateTransactions.mpr ⟨reply, hsimulated, rfl⟩, rfl⟩

end Runs

/-! ### Nothing but what was signed -/

/-- The calls that simulate. -/
inductive SimulationEntry
  | guarded (opts : GuardedSignOptions)
  | preparedGuarded (opts : PreparedGuardedGroupOptions)
  | ordinary (user : Client) (requests : List SignRequest)
  | prepared (user : Client) (items : List PreparedTransaction)

namespace SimulationEntry

/-- The call, of whose result the simulation counts. -/
def run (s : Simulator) (d : Dialect) (algodClient : Option Algod) :
    SimulationEntry → Prog World SdkError SimulationResult
  | guarded opts => GuardedSimulationResult.simulation <$> simulateGuardedGroup s d algodClient opts
  | preparedGuarded opts => GuardedSimulationResult.simulation <$> simulatePreparedGuardedGroup s d algodClient opts
  | ordinary user requests => simulateRequests s d algodClient user requests
  | prepared user items => simulatePreparedGroup s d algodClient user items

/-- `t` is a successful run of the signing the call is for, which released the
group `signed`; an ordinary group was reported complete. -/
def Releases (s : Simulator) (d : Dialect) : SimulationEntry → Trace signer → List String → Prop
  | guarded opts, t, signed => ∃ res, Runs (signGuardedGroup d opts) t (.ok res) ∧ res.signedGroup = signed
  | preparedGuarded opts, t, signed =>
    ∃ res, Runs (signPreparedGuardedGroup d opts) t (.ok res) ∧ res.signedGroup = signed
  | ordinary user requests, t, signed => ∃ response, Runs (signGroup d.calls user requests) t (.ok response) ∧
      s.complete response.mutations = .ok () ∧ response.signed = signed
  | prepared user items, t, signed => ∃ requests response, s.signRequests items = .ok requests ∧
      Runs (signGroup d.calls user requests) t (.ok response) ∧ s.complete response.mutations = .ok () ∧
        response.signed = signed

end SimulationEntry

section Worlds

variable {s : Simulator} {d : Dialect} {algodClient : Option Algod} {t : Trace World}

/-- The signer's part of a trace, then algod's. -/
def stages (t₁ : Trace signer) (t₂ : Trace algodIface) : Trace World :=
  t₁.map (Event.via Embedding.inl) ++ t₂.map (Event.via Embedding.inr)

/-- A question to algod is in algod's part. -/
theorem mem_stages {t₁ : Trace signer} {t₂ : Trace algodIface} {e : Event algodIface}
    (h : e.via Embedding.inr ∈ stages t₁ t₂) : e ∈ t₂ := by
  rcases List.mem_append.mp h with h | h
  · exact absurd h via_sums_disjoint
  · obtain ⟨e', he', heq⟩ := List.mem_map.mp h
    rwa [← via_inr_injective heq]

/-- A run that asked algod something has signed before, decoded all that was
signed, and ends as the answers say. -/
theorem simulateWith_asked {α : Type} {sign : Flow α} {released : α → List String × Option Json}
    {r : Except SdkError (α × SimulationResult)} (h : Runs (simulateWith s algodClient sign released) t r)
    {e : Event algodIface} (he : e.via Embedding.inr ∈ t) :
    ∃ algod t₁ t₂ signing txns reply, algodClient = some algod ∧ t = stages t₁ t₂ ∧
      Runs sign t₁ (.ok signing) ∧ decodeExecutable s (released signing).1 = .ok txns ∧
      Simulated algod txns t₂ reply ∧ e ∈ t₂ ∧
      r = ((reply.mapError apiFailed).bind
        (simulationResult s (released signing).1 (released signing).2 txns)).map (signing, ·) := by
  rcases runs_lift_bind.mp h with ⟨_, -, rfl, -⟩ | ⟨_, hclient, hrest⟩
  · cases he
  · obtain ⟨algod, rfl⟩ := Option.ne_none_iff_exists'.mp (failIf_ok.mp hclient)
    rcases runs_bind.mp hrest with ⟨_, hvia, -⟩ | ⟨signing, t₁, t₂, rfl, hvia, hlast⟩
    · obtain ⟨t₁, rfl, -⟩ := runs_via.mp hvia
      exact absurd he via_sums_disjoint
    · obtain ⟨t₁, rfl, hsign⟩ := runs_via.mp hvia
      obtain ⟨_, hvia', rfl⟩ := runs_map.mp hlast
      obtain ⟨t₂, rfl, hsimulation⟩ := runs_via.mp hvia'
      have hmem := mem_stages he
      rcases runs_simulateSignedGroup.mp hsimulation with ⟨_, -, rfl, -⟩ | ⟨txns, reply, hdecoded, hasked, rfl⟩
      · cases hmem
      · exact ⟨algod, t₁, t₂, signing, txns, reply, rfl, rfl, hsign, hdecoded, hasked, hmem, rfl⟩

end Worlds

section Entries

variable {s : Simulator} {d : Dialect} {algodClient : Option Algod} {t : Trace World}

/-- What a run of a simulation that asked algod has done: signed, decoded the
whole signed group, and asked about it; a result tells what was answered. -/
structure AskedAbout (s : Simulator) (d : Dialect) (entry : SimulationEntry) (algod : Algod) (t : Trace World)
    (r : Except SdkError SimulationResult) (t₁ : Trace signer) (t₂ : Trace algodIface) (signed : List String)
    (txns : List SignedTxn) (reply : Except String Json) : Prop where
  trace : t = stages t₁ t₂
  released : entry.Releases s d t₁ signed
  nonempty : signed ≠ []
  decoded : List.Forall₂ (Decodes s.codec) signed txns
  asked : Simulated algod txns t₂ reply
  outcome : ∃ mutations, r = (reply.mapError apiFailed).bind (simulationResult s signed mutations txns)

theorem askedAbout_guarded (entry : SimulationEntry) {sign : Flow GuardedSignResult}
    (hentry : ∀ t res, Runs sign t (.ok res) → entry.Releases s d t res.signedGroup)
    {r : Except SdkError SimulationResult}
    (h : Runs (GuardedSimulationResult.simulation <$> simulateGuarded s algodClient sign) t r)
    {e : Event algodIface} (he : e.via Embedding.inr ∈ t) :
    ∃ algod t₁ t₂ signed txns reply, algodClient = some algod ∧ e ∈ t₂ ∧
      AskedAbout s d entry algod t r t₁ t₂ signed txns reply := by
  obtain ⟨_, hguarded, rfl⟩ := runs_map.mp h
  obtain ⟨_, hwith, rfl⟩ := runs_map.mp hguarded
  obtain ⟨algod, t₁, t₂, signing, txns, reply, hclient, ht, hsign, hdecoded, hasked, hmem, rfl⟩ :=
    simulateWith_asked hwith he
  obtain ⟨hne, hall⟩ := decodeExecutable_ok.mp hdecoded
  refine ⟨algod, t₁, t₂, _, txns, reply, hclient, hmem, ht, hentry _ _ hsign, hne, hall, hasked, none, ?_⟩
  cases (reply.mapError apiFailed).bind (simulationResult s signing.signedGroup none txns) <;> rfl

theorem signComplete_ok {user : Client} {requests : List SignRequest} {t : Trace signer}
    {response : GroupSignResponse} (h : Runs (signComplete s d user requests) t (.ok response)) :
    Runs (signGroup d.calls user requests) t (.ok response) ∧ s.complete response.mutations = .ok () := by
  obtain ⟨_, t₁, t₂, rfl, hsign, hrest⟩ := runs_bind_ok.mp h
  obtain ⟨_, hcomplete, rfl, hresponse⟩ := runs_lift_bind_ok.mp hrest
  cases hresponse
  rw [List.append_nil]
  exact ⟨hsign, hcomplete⟩

theorem askedAbout_ordinary (entry : SimulationEntry) {user : Client} {requests : List SignRequest}
    (hentry : ∀ t response, Runs (signGroup d.calls user requests) t (.ok response) →
      s.complete response.mutations = .ok () → entry.Releases s d t response.signed)
    {r : Except SdkError SimulationResult} (h : Runs (simulateRequests s d algodClient user requests) t r)
    {e : Event algodIface} (he : e.via Embedding.inr ∈ t) :
    ∃ algod t₁ t₂ signed txns reply, algodClient = some algod ∧ e ∈ t₂ ∧
      AskedAbout s d entry algod t r t₁ t₂ signed txns reply := by
  obtain ⟨_, hwith, rfl⟩ := runs_map.mp h
  obtain ⟨algod, t₁, t₂, response, txns, reply, hclient, ht, hsign, hdecoded, hasked, hmem, rfl⟩ :=
    simulateWith_asked hwith he
  obtain ⟨hne, hall⟩ := decodeExecutable_ok.mp hdecoded
  obtain ⟨hsigned, hcomplete⟩ := signComplete_ok hsign
  refine ⟨algod, t₁, t₂, _, txns, reply, hclient, hmem, ht, hentry _ _ hsigned hcomplete, hne, hall, hasked,
    response.mutations, ?_⟩
  cases (reply.mapError apiFailed).bind (simulationResult s response.signed response.mutations txns) <;> rfl

/-- **Nothing but what was signed is simulated.** Whatever a simulation asks
algod, it asks the caller's algod about the whole group its signing released,
every slot of it filled and decoded, after the signing and in at most two
questions; whatever it returns is told by the answers. -/
theorem simulation_of_signed (env : Env) (sdk : AlgodSdk) (why : String → String) (rule : Python.PadRule)
    (runtime : JsRuntime) (L : Language) (entry : SimulationEntry) (algodClient : Option Algod) (t : Trace World)
    (r : Except SdkError SimulationResult)
    (h : Runs (entry.run (L.simulator env sdk (L.signRequest env why rule runtime)) (L.dialect env) algodClient) t r)
    (e : Event algodIface) (he : e.via Embedding.inr ∈ t) :
    ∃ algod t₁ t₂ signed txns reply trace, algodClient = some algod ∧
      AskedAbout (L.simulator env sdk (L.signRequest env why rule runtime)) (L.dialect env) entry algod t r t₁ t₂ signed
        txns reply ∧ e.op = (algod, simulateRequest txns trace) := by
  generalize L.simulator env sdk (L.signRequest env why rule runtime) = s at h ⊢
  generalize L.dialect env = d at h ⊢
  have hasked : ∃ algod t₁ t₂ signed txns reply, algodClient = some algod ∧ e ∈ t₂ ∧
      AskedAbout s d entry algod t r t₁ t₂ signed txns reply := by
    cases entry with
    | guarded opts => exact askedAbout_guarded (.guarded opts) (fun _ res hrun => ⟨res, hrun, rfl⟩) h he
    | preparedGuarded opts =>
      exact askedAbout_guarded (.preparedGuarded opts) (fun _ res hrun => ⟨res, hrun, rfl⟩) h he
    | ordinary user requests =>
      exact askedAbout_ordinary (.ordinary user requests)
        (fun _ response hrun hcomplete => ⟨response, hrun, hcomplete, rfl⟩) h he
    | prepared user items =>
      rcases runs_lift_bind.mp h with ⟨_, -, rfl, -⟩ | ⟨_, -, hrest⟩
      · cases he
      · rcases runs_lift_bind.mp hrest with ⟨_, -, rfl, -⟩ | ⟨requests, hrequests, hsigned⟩
        · cases he
        · exact askedAbout_ordinary (.prepared user items)
            (fun _ response hrun hcomplete => ⟨requests, response, hrequests, hrun, hcomplete, rfl⟩) hsigned he
  obtain ⟨algod, t₁, t₂, signed, txns, reply, hclient, hmem, habout⟩ := hasked
  obtain ⟨trace, hop⟩ := habout.asked.request hmem
  exact ⟨algod, t₁, t₂, signed, txns, reply, trace, hclient, habout, hop⟩

end Entries

namespace Demo

/-- One group, which did not fail. -/
def simulated : Json :=
  .obj [("last-round", .int 1), ("txn-groups", .arr [.obj [("txn-results", .arr [])]]), ("version", .int 2)]

def algodSdk : AlgodSdk where
  txId txn := if txn = payment then "DNVB74JTW3KHHWB2SUQRDLPUZ7KLYFMTJ3VUJUBMX6CWFKRMOS3Q" else ""
  failureMessages response := if (response.get? "txn-groups").isSome then [""] else []
  intOfText s := s.toInt?

theorem exists_asked {f : (o : World.Op) → World.Ans o} {α : Type} {p : Prog World SdkError α}
    (h : (traceOf f p).any (fun e => e.op.isRight) = true) :
    ∃ e : Event algodIface, e.via Embedding.inr ∈ traceOf f p := by
  obtain ⟨⟨o, a⟩, hmem, hright⟩ := List.any_eq_true.mp h
  cases o with
  | inl o => cases hright
  | inr o => exact ⟨⟨o, a⟩, hmem⟩

/-- A signer that signs the payment, and an algod that does not trace. -/
def untracedAnswers : (o : World.Op) → World.Ans o
  | .inl (.sign ..) => .http 200 "OK" "" none (some { signed := [signedPaymentHex] })
  | .inl o => answers o
  | .inr (_, request) => if request.execTrace = true then .error "tracing is disabled" else .ok simulated

def paymentEntry : SimulationEntry := .ordinary ⟨0⟩ [{ authAddress := payer, txnBytesHex := paymentHex }]

noncomputable def untracedRun : Prog World SdkError SimulationResult :=
  paymentEntry.run (Language.typescript.simulator env algodSdk (Language.typescript.signRequest env id .refused .browser))
    (Language.typescript.dialect env) (some ⟨0⟩)

end Demo

theorem simulation_of_signed_untraced : ∃ e : Event algodIface,
    e.via Embedding.inr ∈ traceOf Demo.untracedAnswers Demo.untracedRun ∧
    ∃ algod txns trace, e.op = (algod, simulateRequest txns trace) := by
  have hasked : (traceOf Demo.untracedAnswers Demo.untracedRun).any (fun e => e.op.isRight) = true := by
    decide +kernel
  generalize hflow : Demo.untracedRun = flow at hasked ⊢
  unfold Demo.untracedRun at hflow
  obtain ⟨e, he⟩ := Demo.exists_asked hasked
  obtain ⟨algod, -, -, -, txns, -, trace, -, -, hop⟩ :=
    simulation_of_signed Demo.env Demo.algodSdk id .refused .browser .typescript Demo.paymentEntry (some ⟨0⟩)
      (traceOf Demo.untracedAnswers flow) (exec Demo.untracedAnswers flow)
      (by rw [hflow]; exact runs_traceOf Demo.untracedAnswers flow) e he
  exact ⟨e, he, algod, txns, trace, hop⟩

/-! ### What is simulated is what was prepared -/

theorem eq_of_map_some {α : Type} {xs ys : List α} (h : xs.map some = ys.map some) : xs = ys :=
  List.map_injective_iff.mpr (Option.some_injective α) h

/-- A prepared group that any choreography of a verifying SDK returned signs the
transactions of an accepted plan for it. -/
theorem preparedFlow_signs {d : Dialect} (hl : d.Lawful) (hsdk : d.codec.sdk.Faithful)
    (hverifies : d.verifiesAssembled = true) (hunhex : ∀ bytes, d.codec.unhex (hexEncode bytes) = some bytes)
    {opts : PreparedGuardedGroupOptions} {t : Trace signer} {res : GuardedSignResult}
    (h : Runs (signPreparedGuardedGroup d opts) t (.ok res)) :
    ∃ user requests reply plan originals final, opts.userClient = some user ∧
      (⟨.plan user requests, reply⟩ : Exchange) ∈ t ∧ reply.okBody = some plan ∧
      opts.transactions.map (·.transaction) = originals.map some ∧ final.length = plan.transactions.length ∧
      SignsAs d.codec res.signedGroup final ∧
      SafeGroup d.codec.sdk (d.planView plan.mutations) originals final := by
  obtain ⟨_, -, hrest⟩ := runs_lift_bind_ok.mp h
  obtain ⟨found, t₀, t₁, rfl, hfound, hflow⟩ := runs_bind_ok.mp hrest
  have htxns := withKeys_transactions hfound
  split at hflow
  · split at hflow
    · cases hflow.2
    · obtain ⟨user, keys, slots, plan, planned, hplan, hsigns⟩ := bounded_ok hl hsdk hflow
      obtain ⟨reply, hsent, hbody⟩ := hplan.sent
      obtain ⟨hdecode, hvalid, -⟩ := checkBoundedPlan_ok hplan.checked
      have hslots := hplan.sorted.transactions (fun _ => rfl) fun hs => (sortBounded_ok hs).1
      exact ⟨user, _, reply, plan, _, planned, withKeys_userClient ▸ hplan.client,
        List.mem_append_right _ hsent, hbody, htxns.symm.trans hslots,
        (decodeCanonicalGroup_ok hl.codec hdecode).1.symm, hsigns, safeGroup_of_plan hl hsdk hdecode hvalid⟩
  · obtain ⟨user, keys, slots, plan, planned, hplan, hsigns⟩ := preparedGuarded_ok hl hsdk hverifies hunhex hflow
    obtain ⟨reply, hsent, hbody⟩ := hplan.sent
    obtain ⟨hdecode, hvalid⟩ := checkGuardedPlan_ok hplan.checked
    have hslots := hplan.sorted.transactions (hl.clone hsdk) fun hs => (sortGuarded_ok hs).1
    exact ⟨user, _, reply, plan, _, planned, withKeys_userClient ▸ hplan.client,
      List.mem_append_right _ hsent, hbody, htxns.symm.trans hslots,
      (decodeCanonicalGroup_ok hl.codec hdecode).1.symm, hsigns, safeGroup_of_plan hl hsdk hdecode hvalid⟩

/-- **What Go simulates is what was prepared.** The transactions algod is asked
to simulate are the prepared ones up to what an accepted plan reports, and
their group id is their hash. -/
theorem simulated_isPrepared (env : Env) (hsdk : env.Faithful) (sdk : AlgodSdk)
    (signRequest : PreparedTransaction → Except SdkError SignRequest) (opts : PreparedGuardedGroupOptions)
    (algodClient : Option Algod) (t : Trace World) (r : Except SdkError GuardedSimulationResult)
    (h : Runs (simulatePreparedGuardedGroup (Go.simulator env sdk signRequest) (Go.dialect env) algodClient opts) t r)
    (e : Event algodIface) (he : e.via Embedding.inr ∈ t) :
    ∃ user requests reply plan originals, opts.userClient = some user ∧
      (⟨.plan user requests, reply⟩ : Exchange).via Embedding.inl ∈ t ∧ reply.okBody = some plan ∧
      opts.transactions.map (·.transaction) = originals.map some ∧
      e.op.2.txns.length = plan.transactions.length ∧
      SafeGroup env.toAlgoSdk (Go.planView plan.mutations) originals (e.op.2.txns.map (·.txn)) := by
  obtain ⟨_, hwith, rfl⟩ := runs_map.mp h
  obtain ⟨algod, t₁, t₂, res, txns, reply, -, rfl, hsign, hdecoded, hasked, hmem, -⟩ := simulateWith_asked hwith he
  obtain ⟨user, requests, answer, plan, originals, final, huser, hsent, hbody, horiginals, hlen, hsigns, hsafe⟩ :=
    preparedFlow_signs (Go.lawful_dialect env) hsdk rfl hexDecode_hexEncode hsign
  obtain ⟨trace, hop⟩ := hasked.request hmem
  -- the signed group decodes to the transactions it was verified to sign
  have hfinal : txns.map (·.txn) = final :=
    eq_of_map_some ((inner_of_decodes (decodeExecutable_ok.mp hdecoded).2).symm.trans hsigns)
  have htxns : e.op.2.txns = txns := by
    rw [hop]
    rfl
  refine ⟨user, requests, answer, plan, originals, huser,
    List.mem_append_left _ (List.mem_map_of_mem hsent), hbody, horiginals, ?_, ?_⟩
  · rw [htxns, ← hlen, ← hfinal, List.length_map]
  · rw [htxns, hfinal]
    exact hsafe

namespace Demo

/-- The parties answer as before, and algod simulates. -/
def worldAnswers : (o : World.Op) → World.Ans o
  | .inl o => answers o
  | .inr _ => .ok simulated

noncomputable def simulatedFlow : Prog World SdkError GuardedSimulationResult :=
  simulatePreparedGuardedGroup (Go.simulator env algodSdk (Go.signRequest env)) (Go.dialect env) (some ⟨0⟩)
    (optionsFor signingFlowCosigner1)

end Demo

theorem simulated_isPrepared_payment : ∃ e : Event algodIface,
    e.via Embedding.inr ∈ traceOf Demo.worldAnswers Demo.simulatedFlow ∧
    ∃ view originals, SafeGroup Demo.env.toAlgoSdk view originals (e.op.2.txns.map (·.txn)) := by
  have hasked : (traceOf Demo.worldAnswers Demo.simulatedFlow).any (fun e => e.op.isRight) = true := by
    decide +kernel
  -- the flow stays a name, which nothing here evaluates
  generalize hflow : Demo.simulatedFlow = flow at hasked ⊢
  unfold Demo.simulatedFlow at hflow
  obtain ⟨e, he⟩ := Demo.exists_asked hasked
  obtain ⟨-, -, -, plan, originals, -, -, -, -, -, hsafe⟩ :=
    simulated_isPrepared Demo.env Demo.faithful Demo.algodSdk (Go.signRequest Demo.env)
      (Demo.optionsFor signingFlowCosigner1) (some ⟨0⟩) (traceOf Demo.worldAnswers flow)
      (exec Demo.worldAnswers flow) (by rw [hflow]; exact runs_traceOf Demo.worldAnswers flow) e he
  exact ⟨e, he, _, originals, hsafe⟩

end AplaneSdk
