/-
# The two signing paths of the Go client

`SignGroupWithContext` and `signResponse`, the path behind `SignTransactions`
and `SignTransactionsList`, send the same request to `/sign` and read the same
reply. The older path sorts a refusal into the sentinels callers dispatch on;
the newer one makes an `APIError` of every status, so a 401, a 503 and the two
coded kinds of 403 lose their sentinel on it.

Key definitions: `Go.signResponse`, `SameOutcome`, `Reply.hasSentinel`.
Key theorems: `acceptSign_sameOutcome`, `signPaths_agree`.
-/
import AplaneSdk.Calls

namespace AplaneSdk

open Interaction Interaction.Prog

/-- Two calls end alike: with the same value, or with errors that match the
same sentinel under `errors.Is`. -/
inductive SameOutcome {α : Type} : Except SdkError α → Except SdkError α → Prop
  | ok (a : α) : SameOutcome (.ok a) (.ok a)
  | error {e e' : SdkError} (h : e.kind = e'.kind) : SameOutcome (.error e) (.error e')

namespace SameOutcome

variable {α β : Type}

theorem refl : ∀ x : Except SdkError α, SameOutcome x x
  | .ok a => .ok a
  | .error _ => .error rfl

/-- Where both sides go on alike, the whole ends alike. -/
theorem bind {x y : Except SdkError α} {f g : α → Except SdkError β} (h : SameOutcome x y)
    (hfg : ∀ a, x = .ok a → SameOutcome (f a) (g a)) : SameOutcome (x >>= f) (y >>= g) := by
  cases h with
  | ok a => exact hfg a rfl
  | error h => exact .error h

/-- The text of a complaint does not matter. -/
theorem failIf {bad : Prop} [Decidable bad] {e e' : SdkError} (h : e.kind = e'.kind) :
    SameOutcome (failIf bad e) (failIf bad e') := by
  unfold AplaneSdk.failIf
  split
  · exact .error h
  · exact .ok ()

theorem error_iff {e e' : SdkError} :
    SameOutcome (.error e : Except SdkError α) (.error e') ↔ e.kind = e'.kind := by
  constructor
  · rintro ⟨h⟩
    assumption
  · exact .error

end SameOutcome

namespace Go

/-- The statuses of `/sign` in `signResponse`. -/
def signResponseEndpoint (env : Env) : Endpoint where
  unreachable why := { text := "failed to sign: " ++ why }
  refused status statusText text envelope :=
    if status = 401 then errAuthentication
    else if status = 403 then rejectedForbiddenError status statusText text envelope
    else if status = 503 then errSignerUnavailable
    else signerHttpError "signer error" status statusText text envelope
  undecodable text := { text := "failed to decode response: " ++ env.jsonError text }

/-- The reply of `/sign` in `signResponse`. -/
def acceptSignResponse (env : Env) (req : GroupSignRequest) (reply : Reply GroupSignResponse) :
    Except SdkError GroupSignResponse := do
  let resp ← decodeReply (signResponseEndpoint env) reply
  failIf (decodeMutations resp.mutations = none) (err ("failed to decode response: " ++ env.jsonError ""))
  failIf (resp.error ≠ "") (err ("signing failed: " ++ resp.error))
  validateGroupSignResponse "signer" noText skipsSlot req.requests resp.signed
  pure resp

/-- `signResponse`. -/
def signResponse (env : Env) (client : Client) (requests : List SignRequest) : Flow GroupSignResponse :=
  exchange (newRequestId (calls env) "sign" .sign) (fun id => { requestId := id, requests := requests })
    (fun sent => mapErr (SdkError.wrap "invalid sign request: ") (validateGroupSignRequest env sent))
    (.sign client) (acceptSignResponse env)

end Go

/-- The replies `signResponse` makes a sentinel of: 401, 503, and a 403 with
the code `locked` or `forbidden`. -/
def Reply.hasSentinel {α : Type} : Reply α → Prop
  | .unreachable _ => False
  | .http status statusText text envelope _ => status = 401 ∨ status = 503 ∨ status = 403 ∧
      ((Go.readErrorParts statusText text envelope).1 = errCodeLocked ∨
        (Go.readErrorParts statusText text envelope).1 = errCodeForbidden)

section Accept

variable {env : Env} {status : ℕ} {statusText text : String} {envelope : Option ErrorResponse}

/-- An `APIError` matches at most `ErrKeyNotFound`. -/
theorem Go.signerHttpError_kind_ne {op : String} {kind : ErrKind} (hsigner : kind ≠ .signer)
    (hkey : kind ≠ .keyNotFound) :
    (Go.signerHttpError op status statusText text envelope).kind ≠ kind := by
  unfold Go.signerHttpError
  dsimp only
  split
  · exact hkey.symm
  · exact hsigner.symm

theorem Go.rejectedForbiddenError_kind_iff :
    (Go.signerHttpError "signer error" status statusText text envelope).kind =
        (Go.rejectedForbiddenError status statusText text envelope).kind ↔
      ¬ ((Go.readErrorParts statusText text envelope).1 = errCodeLocked ∨
        (Go.readErrorParts statusText text envelope).1 = errCodeForbidden) := by
  have hcode : (Go.signerHttpError "signer error" status statusText text envelope).code =
      (Go.readErrorParts statusText text envelope).1 := rfl
  unfold Go.rejectedForbiddenError
  dsimp only
  rw [hcode]
  by_cases hl : (Go.readErrorParts statusText text envelope).1 = errCodeLocked
  · rw [if_pos hl]
    exact iff_of_false (Go.signerHttpError_kind_ne (by decide) (by decide)) (not_not.mpr (Or.inl hl))
  · by_cases hf : (Go.readErrorParts statusText text envelope).1 = errCodeForbidden
    · rw [if_neg hl, if_pos hf]
      exact iff_of_false (Go.signerHttpError_kind_ne (by decide) (by decide)) (not_not.mpr (Or.inr hf))
    · rw [if_neg hl, if_neg hf]
      exact iff_of_true rfl (not_or.mpr ⟨hl, hf⟩)

/-- The two tables of statuses agree where no sentinel is at stake. -/
theorem refused_kind_iff (env : Env) (body : Option GroupSignResponse) :
    ((Go.signEndpoint env).refused status statusText text envelope).kind =
        ((Go.signResponseEndpoint env).refused status statusText text envelope).kind ↔
      ¬ (Reply.http status statusText text envelope body).hasSentinel := by
  simp only [Go.signEndpoint, Go.signResponseEndpoint, Reply.hasSentinel]
  by_cases h401 : status = 401
  · rw [if_pos h401]
    exact iff_of_false (Go.signerHttpError_kind_ne (by decide) (by decide)) (not_not.mpr (Or.inl h401))
  · by_cases h403 : status = 403
    · rw [if_neg h401, if_pos h403, Go.rejectedForbiddenError_kind_iff]
      have h503 : ¬ status = 503 := by omega
      rw [or_iff_right h401, or_iff_right h503, and_iff_right h403]
    · by_cases h503 : status = 503
      · rw [if_neg h401, if_neg h403, if_pos h503]
        exact iff_of_false (Go.signerHttpError_kind_ne (by decide) (by decide))
          (not_not.mpr (Or.inr (Or.inl h503)))
      · rw [if_neg h401, if_neg h403, if_neg h503]
        exact iff_of_true rfl (by simp [h401, h403, h503])

/-- The two paths make the same of a reply exactly when no sentinel is at stake. -/
theorem acceptSign_sameOutcome (req : GroupSignRequest) (reply : Reply GroupSignResponse) :
    SameOutcome (Go.acceptSign env req reply) (Go.acceptSignResponse env req reply) ↔
      ¬ reply.hasSentinel := by
  -- behind the decoding the two paths differ in one text
  have hrest : ∀ x y : Except SdkError GroupSignResponse, SameOutcome x y →
      SameOutcome (x >>= fun resp => do
        failIf (Go.decodeMutations resp.mutations = none)
          (Go.err ("failed to decode response: " ++ env.jsonError ""))
        failIf (resp.error ≠ "") (Go.err ("group signing failed: " ++ resp.error))
        validateGroupSignResponse "signer" noText Go.skipsSlot req.requests resp.signed
        pure resp) (y >>= fun resp => do
        failIf (Go.decodeMutations resp.mutations = none)
          (Go.err ("failed to decode response: " ++ env.jsonError ""))
        failIf (resp.error ≠ "") (Go.err ("signing failed: " ++ resp.error))
        validateGroupSignResponse "signer" noText Go.skipsSlot req.requests resp.signed
        pure resp) := by
    intro x y h
    refine h.bind fun resp _ => (SameOutcome.refl _).bind fun _ _ => ?_
    refine SameOutcome.bind ?_ fun _ _ => SameOutcome.refl _
    exact SameOutcome.failIf rfl
  unfold Go.acceptSign Go.acceptSignResponse
  cases reply with
  | unreachable why => exact iff_of_true (.error rfl) not_false
  | http status statusText text envelope body =>
    by_cases h200 : status = 200
    · refine iff_of_true (hrest _ _ ?_) ?_
      · cases body with
        | none =>
          simp only [decodeReply, h200, ne_eq, not_true_eq_false, if_false]
          exact .error rfl
        | some resp =>
          simp only [decodeReply, h200, ne_eq, not_true_eq_false, if_false]
          exact .ok resp
      · simp [Reply.hasSentinel, h200]
    · have hdecode : ∀ endpoint : Endpoint,
          decodeReply endpoint (.http status statusText text envelope body) =
            .error (endpoint.refused status statusText text envelope) := by
        intro endpoint
        simp only [decodeReply, if_pos h200]
      rw [hdecode, hdecode, ← refused_kind_iff env body]
      exact SameOutcome.error_iff

end Accept

/-- **The two signing paths classify alike where no sentinel is at stake.**
The reply only matters where there is one: the request has an id and is
valid. -/
theorem signPaths_agree (env : Env) (client : Client) (requests : List SignRequest)
    (answer : (o : Op) → o.Ans) :
    SameOutcome (exec (I := signer) answer (signGroup (Go.calls env) client requests))
        (exec (I := signer) answer (Go.signResponse env client requests)) ↔
      ∀ random, answer (.newRequestId .sign) = some random → EntriesOk requests →
        ¬ (answer (.sign client ⟨newSignRequestId random.val, requests⟩)).hasSentinel := by
  rw [signGroup, Go.signResponse, exec_exchange, exec_exchange, exec_newRequestId]
  cases answer (.newRequestId .sign) with
  | none => exact iff_of_true (.error rfl) fun _ h => by cases h
  | some random =>
    have hvalid : Go.validateGroupSignRequest env ⟨newSignRequestId random.val, requests⟩ = .ok () ↔
        EntriesOk requests := by
      unfold Go.validateGroupSignRequest Go.validateSignRequest
      rw [seq_eq_ok, Go.validateSignRequestId_ok, validateSignEntries_ok fun _ => by
        rw [mapErr_ok, Go.validateResources_ok]]
      exact and_iff_right (validRequestId_newSignRequestId random.property)
    simp only [Except.bind, Go.calls, Option.some.injEq, forall_eq']
    rw [← hvalid]
    cases hcheck : Go.validateGroupSignRequest env ⟨newSignRequestId random.val, requests⟩ with
    | error e =>
      exact iff_of_true (.error rfl) fun h => by cases h
    | ok u =>
      rw [imp_iff_right rfl]
      exact acceptSign_sameOutcome _ _

namespace Demo

/-- A signer that refuses an unauthenticated connection. -/
def unauthenticated : (o : Op) → o.Ans
  | .keyInfo .. => .ok none
  | .newRequestId _ => some zeroRandom
  | .plan .. => .unreachable ""
  | .components .. => .unreachable ""
  | .sign .. => .http 401 "Unauthorized" "" none none
  | .assemble .. => .unreachable ""
  | .groupOrder groups => ⟨groups, List.Perm.refl _⟩

def oneEntry : List SignRequest := [{ authAddress := "A", txnBytesHex := "5458" }]

/-- The older path names the missing enrolment, the newer one does not. -/
theorem signPaths_differ : (∀ r ∈ oneEntry, r.isForeign = false) ∧
    ¬ SameOutcome (exec (I := signer) unauthenticated (signGroup (Go.calls env) ⟨0⟩ oneEntry))
      (exec (I := signer) unauthenticated (Go.signResponse env ⟨0⟩ oneEntry)) := by
  refine ⟨by simp [oneEntry, SignRequest.isForeign], ?_⟩
  have hnew : exec (I := signer) unauthenticated (signGroup (Go.calls env) ⟨0⟩ oneEntry) =
      .error { text := "signer error (401): Unauthorized" } := by rfl
  have hold : exec (I := signer) unauthenticated (Go.signResponse env ⟨0⟩ oneEntry) =
      .error Go.errAuthentication := by rfl
  rw [hnew, hold, SameOutcome.error_iff]
  decide

end Demo

end AplaneSdk
