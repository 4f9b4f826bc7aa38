/-
# The setup of an SSH connection in Go

`dialSSHHandshake` bounds the dial and the handshake by a context, and has a
function close the connection when the context ends; after the handshake that
function is called off, and if it could not be, or the context has ended, the
setup has failed. The context may end, and its function may run, at any step of
the setup and after it.

Key definitions: `Go.dialSSHHandshake`, `dialMachine`, `DialView`, `DialInv`.
Key theorems: `DialInv.drift`, `DialInv.step`, `dial_detached`.
-/
import AplaneSdk.SetupDeadline

namespace AplaneSdk

open Interaction Interaction.Prog

/-! ### The handshake of Go -/

/-- The steps of `dialSSHHandshake`. -/
inductive DialOp
  /-- `DialContext`; the answer is its error. -/
  | dial
  /-- `context.AfterFunc(setupCtx, …)`. -/
  | afterFunc
  /-- `ssh.NewClientConn`. -/
  | handshake
  /-- `stopCancellation()`: whether it stopped the function from being run. -/
  | stop
  /-- `setupCtx.Err()`. -/
  | ctxErr
  | closeConn
  /-- The deferred `cancel()` of the setup context. -/
  | cancel
  deriving DecidableEq

@[reducible] def DialOp.Ans : DialOp → Type
  | dial | handshake | ctxErr => Option String
  | stop => Bool
  | _ => Unit

abbrev dialing : Iface := ⟨DialOp, DialOp.Ans⟩

/-- An error, and whether `errors.Is` finds `ErrNotEnrolled` in it. -/
structure DialError where
  text : String
  notEnrolled : Bool := false
  deriving DecidableEq

abbrev DialFlow := Prog dialing DialError

namespace Go

def clientSshKeyRequirement : String := "Ed25519, ECDSA (P-256/384/521), or hardware-backed sk- Ed25519/ECDSA"

/-- A refused key; only under the client's name it is one that is not enrolled. -/
def handshakeError (clientUser : Bool) (why : String) : DialError :=
  if why.toList.tails.any "unable to authenticate".toList.isPrefixOf then
    if clientUser then
      { text := s!"SSH key is not enrolled at the signer: {why} (the signer accepts {clientSshKeyRequirement} " ++
          "client keys; enroll this key with RequestEnrollment or apshell enroll)"
        notEnrolled := true }
    else { text := s!"{why} (the signer accepts {clientSshKeyRequirement} client keys)" }
  else { text := why }

/-- What a failed setup returns: why the context ended, else why the handshake
failed; `context.Canceled` stands in where neither is known. -/
def setupError (clientUser : Bool) (handshake ended : Option String) : DialError :=
  match ended with
  | some why => { text := why }
  | none => handshakeError clientUser (handshake.getD "context canceled")

/-- `err != nil || !detached || setupCtx.Err() != nil`. -/
def setupFailed (handshake : Option String) (detached : Bool) : DialFlow Bool :=
  if handshake.isSome = true ∨ detached = false then pure true
  else do
    let ended ← query (I := dialing) .ctxErr
    pure ended.isSome

/-- `dialSSHHandshake`, from the making of the setup context on. -/
def dialSSHHandshake (clientUser : Bool) : DialFlow Unit :=
  finallyDo (do
    let refused ← query (I := dialing) .dial
    match refused with
    | some why => throw { text := why }
    | none => do
      query (I := dialing) .afterFunc
      let handshake ← query (I := dialing) .handshake
      let detached ← query (I := dialing) .stop
      let failed ← setupFailed handshake detached
      if failed then
        query (I := dialing) .closeConn
        let ended ← query (I := dialing) .ctxErr
        throw (setupError clientUser handshake ended)) (query (I := dialing) .cancel)

end Go

/-! ### The context and its function -/

inductive AfterFuncState
  | unregistered
  | registered
  /-- Its goroutine has been started. -/
  | started
  | stopped
  | finished
  deriving DecidableEq

structure DialState where
  /-- Why the setup context has ended. -/
  ended : Option String := none
  func : AfterFuncState := .unregistered
  conn : SocketState := .absent

/-- What happens by itself. -/
inductive DialDrift
  /-- The timeout, or the caller's context. -/
  | contextEnds (why : String)
  | funcRuns

/-- The end of a context starts a function that waits for it. -/
def AfterFuncState.start : AfterFuncState → AfterFuncState
  | .registered => .started
  | f => f

def dialMachine : Machine dialing DialDrift DialState where
  answer s
    | .dial, none => some { s with conn := .connected }
    | .dial, some _ => some s
    | .afterFunc, () => some { s with func := if s.ended.isSome then .started else .registered }
    | .handshake, _ => some s
    | .stop, b =>
      if b = (s.func == .registered) then some { s with func := if b then .stopped else s.func } else none
    | .ctxErr, ended => if ended = s.ended then some s else none
    | .closeConn, () => some { s with conn := .closed }
    | .cancel, () => some { s with ended := s.ended.or (some "context canceled"), func := s.func.start }
  drift s
    | .contextEnds why => if s.ended = none then some { s with ended := some why, func := s.func.start } else none
    | .funcRuns => if s.func = .started then some { s with func := .finished, conn := .closed } else none

def dialPool (clientUser : Bool) : Pool dialing DialError Unit DialState where
  shared := {}
  threads := [Go.dialSSHHandshake clientUser]

/-! ### What the caller's goroutine knows -/

structure DialView where
  opened : Bool := false
  registered : Bool := false
  /-- The function was called off. -/
  detached : Bool := false
  closed : Bool := false
  /-- It knows that the context has ended. -/
  sawEnd : Bool := false
  /-- It found the context alive all the same. -/
  denied : Bool := false
  /-- Why the context ended, as it was told. -/
  why : Option String := none

def dialMonitor : Monitor dialing DialView where
  next v
    | ⟨.dial, none⟩ => { v with opened := true }
    | ⟨.afterFunc, _⟩ => { v with registered := true }
    | ⟨.stop, true⟩ => { v with detached := true }
    | ⟨.stop, false⟩ => { v with sawEnd := true }
    | ⟨.ctxErr, some why⟩ => { v with sawEnd := true, why := some why }
    | ⟨.ctxErr, none⟩ => { v with denied := v.denied || v.sawEnd }
    | ⟨.closeConn, _⟩ => { v with closed := true }
    | _ => v
  allows v e := match e.op with
    | .dial => v.opened = false
    | .afterFunc => v.opened = true ∧ v.registered = false
    | .stop => v.registered = true ∧ v.detached = false
    | .closeConn => v.opened = true
    | _ => True

/-- The context, its function and the connection, with what the caller knows. -/
structure DialInv (s : DialState) (v : DialView) : Prop where
  registered : s.func = .unregistered ↔ v.registered = false
  opened : v.registered = true ∨ v.closed = true → v.opened = true
  detached : s.func = .stopped ↔ v.detached = true
  /-- The function runs only after the end of the context. -/
  started : s.func = .started ∨ s.func = .finished → s.ended.isSome = true
  sawEnd : v.sawEnd = true → s.ended.isSome = true
  denied : v.denied = false
  why : ∀ w, v.why = some w → s.ended = some w
  absent : s.conn = .absent → v.opened = false
  present : s.conn = .connected → v.opened = true ∧ v.closed = false
  closed : s.conn = .closed → v.opened = true ∧ (v.closed = true ∨ s.func = .finished)

section Dial

variable {s s' : DialState} {v : DialView} {clientUser : Bool}

theorem DialInv.drift (h : DialInv s v) {d : DialDrift} (hs : dialMachine.drift s d = some s') : DialInv s' v := by
  cases d with
  | contextEnds why =>
    simp only [dialMachine, Option.ite_none_right_eq_some, Option.some.injEq] at hs
    obtain ⟨halive, rfl⟩ := hs
    have huntold : ∀ w, v.why = some w → some why = some w := fun w hv =>
      absurd (halive.symm.trans (h.why w hv)) nofun
    obtain ⟨ended, func, conn⟩ := s
    cases func with
    | registered =>
      exact { h with
        registered := ⟨nofun, fun hv => absurd (h.registered.mpr hv) nofun⟩
        detached := ⟨nofun, fun hv => absurd (h.detached.mpr hv) nofun⟩
        started := fun _ => rfl
        sawEnd := fun _ => rfl
        why := huntold
        closed := fun hc => ⟨(h.closed hc).1, (h.closed hc).2.imp_right nofun⟩ }
    | _ => exact { h with started := fun _ => rfl, sawEnd := fun _ => rfl, why := huntold }
  | funcRuns =>
    simp only [dialMachine, Option.ite_none_right_eq_some, Option.some.injEq] at hs
    obtain ⟨hfunc, rfl⟩ := hs
    have hregistered : v.registered = true := by
      by_contra hv
      rw [h.registered.mpr (Bool.not_eq_true _ ▸ hv)] at hfunc
      cases hfunc
    exact { h with
      registered := ⟨nofun, fun hv => absurd hregistered (by simp [hv])⟩
      detached := ⟨nofun, fun hv => absurd (hfunc.symm.trans (h.detached.mpr hv)) nofun⟩
      started := fun _ => h.started (Or.inl hfunc)
      absent := nofun
      present := nofun
      closed := fun _ => ⟨h.opened (Or.inl hregistered), Or.inr rfl⟩ }

theorem DialInv.step (h : DialInv s v) {e : Event dialing} (hallows : dialMonitor.allows v e)
    (hans : dialMachine.answer s e.op e.ans = some s') : DialInv s' (dialMonitor.next v e) := by
  obtain ⟨o, a⟩ := e
  cases o with
  | dial =>
    cases a with
    | none =>
      have hunopened : v.opened = false := hallows
      cases hans
      exact { h with
        opened := fun _ => rfl
        absent := nofun
        present := fun _ => ⟨rfl, by
          by_contra hclosed
          have := h.opened (Or.inr (Bool.not_eq_false _ ▸ hclosed))
          rw [hunopened] at this
          cases this⟩
        closed := nofun }
    | some why =>
      cases hans
      exact h
  | afterFunc =>
    obtain ⟨hopened, hfresh⟩ := hallows
    have hfunc := h.registered.mpr hfresh
    have hundetached : v.detached = false := by
      by_contra hv
      have := h.detached.mpr (Bool.not_eq_false _ ▸ hv)
      rw [hfunc] at this
      cases this
    have hunfinished : s.conn = .closed → v.closed = true := fun hc =>
      (h.closed hc).2.resolve_right fun hdone => absurd (hfunc.symm.trans hdone) nofun
    simp only [dialMachine, Option.some.injEq] at hans
    subst hans
    -- the function is started at once where the context has ended already
    cases hended : s.ended.isSome with
    | false =>
      exact { h with
        registered := ⟨nofun, nofun⟩
        opened := fun _ => hopened
        detached := ⟨nofun, fun hv => absurd hv (by simp [dialMonitor, hundetached])⟩
        started := nofun
        closed := fun hc => ⟨hopened, Or.inl (hunfinished hc)⟩ }
    | true =>
      exact { h with
        registered := ⟨nofun, nofun⟩
        opened := fun _ => hopened
        detached := ⟨nofun, fun hv => absurd hv (by simp [dialMonitor, hundetached])⟩
        started := fun _ => hended
        closed := fun hc => ⟨hopened, Or.inl (hunfinished hc)⟩ }
  | handshake =>
    cases hans
    exact h
  | stop =>
    obtain ⟨hregistered, hundetached⟩ := hallows
    simp only [dialMachine, Option.ite_none_right_eq_some, Option.some.injEq] at hans
    obtain ⟨ha, rfl⟩ := hans
    cases a with
    | true =>
      have hfunc : s.func = .registered := beq_iff_eq.mp ha.symm
      have hunfinished : s.conn = .closed → v.closed = true := fun hc =>
        (h.closed hc).2.resolve_right fun hdone => absurd (hfunc.symm.trans hdone) nofun
      rw [if_pos rfl]
      exact { h with
        registered := ⟨nofun, fun hv => absurd (hregistered.symm.trans hv) nofun⟩
        detached := ⟨fun _ => rfl, fun _ => rfl⟩
        started := nofun
        closed := fun hc => ⟨(h.closed hc).1, Or.inl (hunfinished hc)⟩ }
    | false =>
      -- a registered function that cannot be stopped has been started
      have hstarted : s.func = .started ∨ s.func = .finished := by
        cases hfunc : s.func with
        | unregistered => exact absurd (h.registered.mp hfunc) (by simp [hregistered])
        | registered => simp [hfunc] at ha
        | stopped => exact absurd (h.detached.mp hfunc) (by simp [hundetached])
        | started => exact Or.inl rfl
        | finished => exact Or.inr rfl
      exact { h with sawEnd := fun _ => h.started hstarted }
  | ctxErr =>
    simp only [dialMachine, Option.ite_none_right_eq_some, Option.some.injEq] at hans
    obtain ⟨ha, rfl⟩ := hans
    cases a with
    | none =>
      have hsaw : v.sawEnd = false := by
        by_contra hv
        have := h.sawEnd (Bool.not_eq_false _ ▸ hv)
        rw [← ha] at this
        cases this
      exact { h with denied := by simp [dialMonitor, h.denied, hsaw] }
    | some why =>
      exact { h with
        sawEnd := fun _ => ha ▸ rfl
        why := fun w hw => ha ▸ hw }
  | closeConn =>
    cases hans
    exact { h with
      opened := fun _ => hallows
      absent := nofun
      present := nofun
      closed := fun _ => ⟨hallows, Or.inl rfl⟩ }
  | cancel =>
    cases hans
    have hended : (s.ended.or (some "context canceled")).isSome = true := by cases s.ended <;> rfl
    have htold : ∀ w, v.why = some w → s.ended.or (some "context canceled") = some w := fun w hw => by
      rw [h.why w hw]
      rfl
    obtain ⟨ended, func, conn⟩ := s
    cases func with
    | registered =>
      exact { h with
        registered := ⟨nofun, fun hv => absurd (h.registered.mpr hv) nofun⟩
        detached := ⟨nofun, fun hv => absurd (h.detached.mpr hv) nofun⟩
        started := fun _ => hended
        sawEnd := fun _ => hended
        why := htold
        closed := fun hc => ⟨(h.closed hc).1, (h.closed hc).2.imp_right nofun⟩ }
    | _ => exact { h with started := fun _ => hended, sawEnd := fun _ => hended, why := htold }

/-! ### Every run of the handshake -/

/-- The event opens the connection. -/
def opensConn : Event dialing → Bool
  | ⟨.dial, refused⟩ => refused.isNone
  | _ => false

theorem after_opened (v : DialView) (t : Trace dialing) (h : v.opened = true) :
    (dialMonitor.after v t).opened = true := by
  have hflag : ∀ (v : DialView) (e : Event dialing),
      (dialMonitor.next v e).opened = (v.opened || opensConn e) := by
    rintro v ⟨o, a⟩
    cases o with
    | dial => cases a <;> simp [dialMonitor, opensConn]
    | stop | ctxErr => cases a <;> simp [dialMonitor, opensConn]
    | _ => simp [dialMonitor, opensConn]
  rw [Monitor.after_flag hflag, h, Bool.true_or]

/-- It looks after a connection it has opened, and calls off a function it has registered, once. -/
theorem obeys_dialSSHHandshake : Obeys dialMonitor {} (Go.dialSSHHandshake clientUser) := by
  refine obeys_bind (obeys_attempt ?_) fun t _ _ => obeys_query_bind fun _ => ⟨trivial, obeys_done _⟩
  refine obeys_query_bind fun refused => ⟨rfl, ?_⟩
  cases refused with
  | some why => exact obeys_done _
  | none =>
    refine obeys_query_bind fun _ => ⟨⟨rfl, rfl⟩, obeys_query_bind fun handshake => ⟨trivial, ?_⟩⟩
    refine obeys_query_bind fun detached => ⟨⟨rfl, rfl⟩, ?_⟩
    refine obeys_bind ?_ fun t failed _ => ?_
    · rw [Go.setupFailed]
      split
      · exact obeys_done _
      · exact obeys_query_bind fun _ => ⟨trivial, obeys_done _⟩
    · cases failed with
      | false => exact obeys_done _
      | true =>
        refine obeys_query_bind fun _ => ⟨after_opened _ t (by cases detached <;> rfl), obeys_query_bind fun ended => ⟨trivial, ?_⟩⟩
        exact obeys_done _

/-- How a setup ends. -/
inductive DialEnd (clientUser : Bool) (t : Trace dialing) (v : DialView) : Except DialError Unit → Prop
  | kept (hopened : v.opened = true) (hdetached : v.detached = true) (hclosed : v.closed = false)
      (hhandshake : ⟨.handshake, none⟩ ∈ t) : DialEnd clientUser t v (.ok ())
  | refused (why : String) (hdial : ⟨.dial, some why⟩ ∈ t) (hopened : v.opened = false) :
      DialEnd clientUser t v (.error { text := why })
  | ended (why : String) (hclosed : v.closed = true) (hwhy : v.why = some why) :
      DialEnd clientUser t v (.error { text := why })
  | handshake (why : String) (hclosed : v.closed = true) (hhandshake : ⟨.handshake, some why⟩ ∈ t) :
      DialEnd clientUser t v (.error (Go.handshakeError clientUser why))
  /-- Something went wrong, and nothing is known of it. -/
  | unknown (e : DialError) (hdenied : v.denied = true) : DialEnd clientUser t v (.error e)

/-- What is done about a setup that has failed. -/
theorem abandoned_ends {handshake : Option String} (t₁ : Trace dialing) {t₂ : Trace dialing} {v : DialView}
    {r : Except DialError Unit} (hin : ⟨.handshake, handshake⟩ ∈ t₁) (hknown : handshake.isSome = true ∨ v.sawEnd = true)
    (h : Runs (do
      query (I := dialing) .closeConn
      let ended ← query (I := dialing) .ctxErr
      throw (Go.setupError clientUser handshake ended) : DialFlow Unit) t₂ r) :
    DialEnd clientUser (t₁ ++ t₂ ++ [⟨.cancel, ()⟩]) (dialMonitor.after v (t₂ ++ [⟨.cancel, ()⟩])) r := by
  obtain ⟨⟨⟩, t₃, rfl, hclosed⟩ := runs_query_bind.mp h
  obtain ⟨ended, t₄, rfl, rfl, rfl⟩ := runs_query_bind.mp hclosed
  cases ended with
  | some why => exact .ended why rfl rfl
  | none =>
    cases handshake with
    | some why => exact .handshake why rfl (by simp [hin])
    | none =>
      have hsaw : v.sawEnd = true := hknown.resolve_left (by simp)
      exact .unknown _ (by simp [Monitor.after, dialMonitor, hsaw])

theorem dialSSHHandshake_ends {t : Trace dialing} {r : Except DialError Unit}
    (h : Runs (Go.dialSSHHandshake clientUser) t r) : DialEnd clientUser t (dialMonitor.after {} t) r := by
  obtain ⟨r', t₁, t₂, rfl, hbody, hlast⟩ := runs_finallyDo.mp h
  obtain ⟨⟨⟩, rfl, hok⟩ : ∃ a, t₂ = [⟨.cancel, a⟩] ∧ r = r' := by
    rcases hlast with ⟨e, hcancel, -⟩ | ⟨hcancel, rfl⟩
    · obtain ⟨_, -, hcancel⟩ := runs_query.mp hcancel
      cases hcancel
    · obtain ⟨a, rfl, -⟩ := runs_query.mp hcancel
      exact ⟨a, rfl, rfl⟩
  subst hok
  obtain ⟨refused, t₃, rfl, hdial⟩ := runs_query_bind.mp hbody
  cases refused with
  | some why =>
    obtain ⟨rfl, rfl⟩ := hdial
    exact .refused why (by simp) rfl
  | none =>
    obtain ⟨⟨⟩, t₄, rfl, hregistered⟩ := runs_query_bind.mp hdial
    obtain ⟨handshake, t₅, rfl, hshaken⟩ := runs_query_bind.mp hregistered
    obtain ⟨detached, t₆, rfl, hstopped⟩ := runs_query_bind.mp hshaken
    by_cases hbroken : handshake.isSome = true ∨ detached = false
    · rw [Go.setupFailed, if_pos hbroken] at hstopped
      refine abandoned_ends [⟨.dial, none⟩, ⟨.afterFunc, ()⟩, ⟨.handshake, handshake⟩, ⟨.stop, detached⟩]
        (by simp) (hbroken.imp_right fun hlost => ?_) hstopped
      rw [hlost]
      rfl
    · obtain ⟨hshook, hdetached⟩ := not_or.mp hbroken
      obtain rfl : handshake = none := by simpa using hshook
      obtain rfl : detached = true := by simpa using hdetached
      rw [Go.setupFailed, if_neg hbroken] at hstopped
      obtain ⟨ended, t₇, rfl, hlooked⟩ := runs_query_bind.mp hstopped
      cases ended with
      | none =>
        obtain ⟨rfl, rfl⟩ := hlooked
        exact .kept rfl rfl rfl (by simp)
      | some why =>
        exact abandoned_ends [⟨.dial, none⟩, ⟨.afterFunc, ()⟩, ⟨.handshake, none⟩, ⟨.stop, true⟩,
          ⟨.ctxErr, some why⟩] (by simp) (Or.inr rfl) hlooked

theorem obeys_dialPool : ∀ (i : ℕ) p, (dialPool clientUser).threads[i]? = some p → Obeys dialMonitor {} p
  | 0, _, hp => by
    cases hp
    exact obeys_dialSSHHandshake
  | _ + 1, _, hp => by cases hp

variable {ms : List (Move dialing DialDrift)} {pool : Pool dialing DialError Unit DialState}

/-- What the goroutine knows ties in with the context, its function and the connection at any time. -/
theorem dialInv_run (hrun : Pool.run dialMachine (fun _ _ _ => true) (dialPool clientUser) ms = some pool) :
    DialInv pool.shared (views dialMonitor (fun _ => {}) ms 0) := by
  have hstart : DialInv {} {} := by constructor <;> simp
  refine Pool.run_views (fun s v => DialInv s (v 0)) obeys_dialPool hstart (fun s v d s' h hs => h.drift hs) ?_ hrun
  intro s v i e s' hi h hallows hans
  obtain rfl : i = 0 := Nat.lt_one_iff.mp hi
  exact h.step hallows hans

/-- **A context that ends late does no harm.** However the end of the context,
its function and the setup interleave: a setup that succeeded has an open
connection that the function will never close, now and for good; one that failed
leaves none open, and returns the error of the dial, why the context ended, or
the error of the handshake, and nothing else. -/
theorem dial_detached
    (hrun : Pool.run dialMachine (fun _ _ _ => true) (dialPool clientUser) ms = some pool) :
    (pool.threads[0]? = some (done (.ok ())) →
        pool.shared.conn = .connected ∧ pool.shared.func = .stopped ∧ ⟨.handshake, none⟩ ∈ eventsOf 0 ms) ∧
      ∀ e, pool.threads[0]? = some (done (.error e)) →
        pool.shared.conn ≠ .connected ∧
          ((∃ why, ⟨.dial, some why⟩ ∈ eventsOf 0 ms ∧ e = { text := why }) ∨
            (∃ why, pool.shared.ended = some why ∧ e = { text := why }) ∨
            ∃ why, ⟨.handshake, some why⟩ ∈ eventsOf 0 ms ∧ e = Go.handshakeError clientUser why) := by
  have hinv := dialInv_run hrun
  have hends : ∀ r, pool.threads[0]? = some (done r) →
      DialEnd clientUser (eventsOf 0 ms) (views dialMonitor (fun _ => {}) ms 0) r := by
    intro r hdone
    obtain ⟨p, hp, hleads⟩ := Pool.run_leads (i := 0) rfl hrun
    rw [hdone] at hp
    cases Option.some.inj hp
    exact dialSSHHandshake_ends hleads.runs
  refine ⟨fun hdone => ?_, fun e hdone => ?_⟩
  · cases hends _ hdone with
    | kept hopened hdetached hclosed hhandshake =>
      have hfunc := hinv.detached.mpr hdetached
      refine ⟨?_, hfunc, hhandshake⟩
      cases hconn : pool.shared.conn with
      | connected => rfl
      | absent => exact absurd (hinv.absent hconn) (by simp [hopened])
      | closed =>
        rcases (hinv.closed hconn).2 with hmine | hfinished
        · exact absurd hmine (by simp [hclosed])
        · exact absurd (hfunc.symm.trans hfinished) nofun
  · have hshut : (views dialMonitor (fun _ => {}) ms 0).opened = false ∨
        (views dialMonitor (fun _ => {}) ms 0).closed = true → pool.shared.conn ≠ .connected := by
      intro hv hconn
      obtain ⟨hopened, hclosed⟩ := hinv.present hconn
      rcases hv with hv | hv
      · exact absurd (hopened.symm.trans hv) nofun
      · exact absurd (hclosed.symm.trans hv) nofun
    cases hends _ hdone with
    | refused why hdial hopened => exact ⟨hshut (Or.inl hopened), Or.inl ⟨why, hdial, rfl⟩⟩
    | ended why hclosed hwhy => exact ⟨hshut (Or.inr hclosed), Or.inr (Or.inl ⟨why, hinv.why _ hwhy, rfl⟩)⟩
    | handshake why hclosed hhandshake =>
      exact ⟨hshut (Or.inr hclosed), Or.inr (Or.inr ⟨why, hhandshake, rfl⟩)⟩
    | unknown _ hdenied => exact absurd (hinv.denied.symm.trans hdenied) nofun

end Dial

namespace Demo

/-- The handshake is done as the context ends. -/
def lastHandshake : List (Move dialing DialDrift) :=
  [.thread 0 ⟨.dial, none⟩, .thread 0 ⟨.afterFunc, ()⟩, .thread 0 ⟨.handshake, none⟩,
    .drift (.contextEnds "context deadline exceeded"), .thread 0 ⟨.stop, false⟩, .drift .funcRuns,
    .thread 0 ⟨.closeConn, ()⟩, .thread 0 ⟨.ctxErr, some "context deadline exceeded"⟩, .thread 0 ⟨.cancel, ()⟩]

theorem dial_detached_late : ∃ pool,
    Pool.run dialMachine (fun _ _ _ => true) (dialPool true) lastHandshake = some pool ∧
      pool.threads[0]? = some (done (.error { text := "context deadline exceeded" })) ∧
        pool.shared.conn ≠ .connected := by
  obtain ⟨pool, hrun, hdone⟩ : ∃ pool,
      Pool.run dialMachine (fun _ _ _ => true) (dialPool true) lastHandshake = some pool ∧
        pool.threads[0]? = some (done (.error { text := "context deadline exceeded" })) := ⟨_, rfl, rfl⟩
  exact ⟨pool, hrun, hdone, ((dial_detached hrun).2 _ hdone).1⟩

end Demo

end AplaneSdk
