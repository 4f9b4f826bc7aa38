/-
# The approval wait

A request that waits for an operator must not time out before the operator has
had the time the signer gives. The clients read that time off `/status`, keep it
for five minutes, and wait half a minute longer; where they know nothing they
wait six minutes. A client may have many calls under way: they share what is
kept, and ask for it, fill it and read it in any order.

A call that fails on the way asks the signer to cancel (the two goroutines that
do this in Go are in `Cancel`).

Key definitions: `discoverApprovalWait`, `signRequestTimeout`, `callTimeout`,
`WaitState`, `waitMachine`, `WaitInv`, `usableWait`.
Key theorems: `WaitInv.step`, `approvalWait_followed`, `raised_canceled`.
-/
import AplaneSdk.Lib.Views
import AplaneSdk.Calls

namespace AplaneSdk

open Interaction Interaction.Prog

/-! ### Timeouts, in milliseconds -/

def componentSignTimeout : ℕ := 120000
def signApprovalSlack : ℕ := 30000
def defaultSignRequestTimeout : ℕ := 360000
def approvalWaitRefresh : ℕ := 300000

/-- In seconds. -/
def maxDiscoveredApprovalWait : ℤ := 1800

/-- `timeoutFor`: the client's own timeout only shortens. -/
def timeoutFor (explicit : Option ℕ) (default : ℕ) : ℕ :=
  match explicit with
  | some timeout => if timeout < default then timeout else default
  | none => default

/-! ### The calls -/

inductive WaitCall
  /-- GET `/status`. -/
  | status
  /-- POST `/sign`. -/
  | sign
  /-- POST `/sign/component`; what a cosigner signs waits for no operator. -/
  | component (cosigner : Bool)
  deriving DecidableEq

def WaitCall.bearsApproval : WaitCall → Bool
  | sign | component false => true
  | _ => false

inductive StatusReply
  /-- No connection, or an error of the signer. -/
  | failed
  /-- A body that is no status. -/
  | unreadable
  /-- `approval_wait_seconds`, 0 where it is missing. -/
  | status (approvalWaitSeconds : ℤ)

inductive PostReply
  | answered
  /-- The request itself failed, or timed out. -/
  | raised
  deriving DecidableEq

inductive WaitOp
  /-- The clock. -/
  | now
  /-- Whether what is kept is missing or too old at `now`. -/
  | needsDiscovery (now : ℕ)
  | getStatus
  /-- `cacheApprovalWait`. -/
  | cacheWait (seconds : ℤ)
  /-- `cachedApprovalWait`. -/
  | cachedWait (now : ℕ)
  | post (c : WaitCall) (timeout : ℕ)
  /-- POST `/sign/cancel`. -/
  | cancel
  deriving DecidableEq

@[reducible] def WaitOp.Ans : WaitOp → Type
  | now => ℕ
  | needsDiscovery _ => Bool
  | getStatus => StatusReply
  | cachedWait _ => Option ℕ
  | post .. => PostReply
  | _ => Unit

abbrev waiting : Iface := ⟨WaitOp, WaitOp.Ans⟩

inductive CallFailure
  | unavailable
  | unreadableStatus
  deriving DecidableEq

abbrev WaitFlow := Prog waiting CallFailure

def getStatus : WaitFlow Unit := do
  let reply ← query (I := waiting) .getStatus
  match reply with
  | .failed => throw .unavailable
  | .unreadable => throw .unreadableStatus
  | .status seconds => query (I := waiting) (.cacheWait seconds)

/-- A discovery that fails is no failure of the call. Python lets only its own
errors pass, and a body that is no status raises another. -/
def discoverApprovalWait (l : Language) : WaitFlow Unit := do
  let now ← query (I := waiting) .now
  let stale ← query (I := waiting) (.needsDiscovery now)
  if stale then
    let outcome ← getStatus.attempt
    if l = .python ∧ outcome = .error .unreadableStatus then
      throw .unreadableStatus

/-- `signRequestTimeout` before the client's own timeout. -/
def approvalTimeout (wait : Option ℕ) : ℕ :=
  match wait with
  | some wait => wait + signApprovalSlack
  | none => defaultSignRequestTimeout

def signRequestTimeout : WaitFlow ℕ := do
  let now ← query (I := waiting) .now
  let wait ← query (I := waiting) (.cachedWait now)
  pure (approvalTimeout wait)

/-- The timeout of a post. Go bounds the longer of two timeouts by the client's
own, the others take the longer of two that are bounded. -/
def callTimeout (l : Language) (explicit : Option ℕ) : WaitCall → WaitFlow ℕ
  | .component true => pure (timeoutFor explicit componentSignTimeout)
  | .component false => do
    discoverApprovalWait l
    let approval ← signRequestTimeout
    match l with
    | .go => pure (timeoutFor explicit (if componentSignTimeout < approval then approval else componentSignTimeout))
    | _ => pure (max (timeoutFor explicit componentSignTimeout) (timeoutFor explicit approval))
  | _ => do
    discoverApprovalWait l
    let approval ← signRequestTimeout
    pure (timeoutFor explicit approval)

def postCall (l : Language) (c : WaitCall) (timeout : ℕ) : WaitFlow Unit := do
  let reply ← query (I := waiting) (.post c timeout)
  if reply = .raised then
    if l ≠ .go ∧ c.bearsApproval = true then
      query (I := waiting) .cancel
    throw .unavailable

def clientCall (l : Language) (explicit : Option ℕ) : WaitCall → WaitFlow Unit
  | .status => getStatus
  | c => do
    let timeout ← callTimeout l explicit c
    postCall l c timeout

/-- Calls in a row, whatever comes of each. -/
def clientCalls (l : Language) (explicit : Option ℕ) : List WaitCall → WaitFlow Unit
  | [] => pure ()
  | c :: cs => do
    let _ ← (clientCall l explicit c).attempt
    clientCalls l explicit cs

/-! ### What the calls share -/

structure WaitState where
  clock : ℕ
  /-- `approvalWaitSeconds`, 0 for none. -/
  wait : ℕ := 0
  /-- `approvalWaitFetched`. -/
  fetched : ℕ := 0
  /-- `approvalWaitKnown`. -/
  known : Bool := false
  /-- What was kept, with the time, the newest first. -/
  reports : List (ℕ × ℤ) := []

/-- A wait that can be used, in seconds. -/
def usableSeconds (seconds : ℤ) : ℕ :=
  if 0 < seconds ∧ seconds ≤ maxDiscoveredApprovalWait then seconds.toNat else 0

/-- The methods of the cache are taken one at a time, as the mutex of Go and the
event loop of TypeScript have it. `Date.now()` is taken not to be set back. -/
def waitMachine : Machine waiting ℕ WaitState where
  answer s
    | .now, now => if now = s.clock then some s else none
    | .needsDiscovery now, b => if b = (!s.known || decide (s.fetched + approvalWaitRefresh < now)) then some s else none
    | .getStatus, _ => some s
    | .cacheWait seconds, () =>
      some { s with
        wait := usableSeconds seconds
        fetched := s.clock
        known := true
        reports := (s.clock, seconds) :: s.reports }
    | .cachedWait now, wait =>
      if wait = (if s.known = true ∧ s.wait ≠ 0 ∧ now ≤ s.fetched + approvalWaitRefresh then some (s.wait * 1000) else none)
      then some s else none
    | .post .., _ => some s
    | .cancel, () => some s
  drift s ticks := some { s with clock := s.clock + ticks }

/-- A client of Go or TypeScript serves many callers at a time, one of Python one
thread. -/
def waitPool (l : Language) (explicit : Option ℕ) (now : ℕ) (callers : List (List WaitCall)) :
    Pool waiting CallFailure Unit WaitState where
  shared := { clock := now }
  threads := match l with
    | .python => [clientCalls l explicit callers.flatten]
    | _ => callers.map (clientCalls l explicit)

/-! ### What each caller knows -/

/-- The timeout of a call that bears approval, before the client's own. -/
def WaitCall.timeout (c : WaitCall) (wait : Option ℕ) : ℕ :=
  match c with
  | .component _ => max componentSignTimeout (approvalTimeout wait)
  | _ => approvalTimeout wait

/-- The call asks for a cancel itself where its post fails. -/
def owesCancel (l : Language) (e : Event waiting) : Bool :=
  match e with
  | ⟨.post c _, reply⟩ => l != .go && c.bearsApproval && reply == .raised
  | _ => false

def isCancel (e : Event waiting) : Bool := e.op == .cancel

structure WaitView where
  /-- The clock at its last look. -/
  now : Option ℕ := none
  /-- The waits that `/status` gave it. -/
  answers : List ℤ := []
  /-- Its last look at what is kept: the clock it went by, and what it found. -/
  looked : Option (ℕ × Option ℕ) := none
  owed : ℕ := 0
  cancels : ℕ := 0

def waitMonitor (l : Language) (explicit : Option ℕ) : Monitor waiting WaitView where
  next v e :=
    { now := match e with
        | ⟨.now, now⟩ => some now
        | _ => v.now
      answers := match e with
        | ⟨.getStatus, .status seconds⟩ => seconds :: v.answers
        | _ => v.answers
      looked := match e with
        | ⟨.cachedWait now, wait⟩ => some (now, wait)
        | _ => v.looked
      owed := v.owed + (owesCancel l e).toNat
      cancels := v.cancels + (isCancel e).toNat }
  allows v e := match e.op with
    | .cacheWait seconds => seconds ∈ v.answers
    | .cachedWait now => v.now = some now
    | .post c timeout => v.owed = v.cancels ∧
        (c = .component true ∧ timeout = timeoutFor explicit componentSignTimeout ∨
          c.bearsApproval = true ∧
            ∃ now wait, v.looked = some (now, wait) ∧ timeout = timeoutFor explicit (c.timeout wait))
    | .cancel => v.owed = v.cancels + 1
    | _ => True

section Obeying

variable {l : Language} {explicit : Option ℕ} {v : WaitView} {t : Trace waiting}

theorem after_owed : ((waitMonitor l explicit).after v t).owed = v.owed + t.countP (owesCancel l) :=
  Monitor.after_count (fun _ _ => rfl) v t

theorem after_cancels : ((waitMonitor l explicit).after v t).cancels = v.cancels + t.countP isCancel :=
  Monitor.after_count (fun _ _ => rfl) v t

theorem timeoutFor_max (explicit : Option ℕ) (a b : ℕ) :
    max (timeoutFor explicit a) (timeoutFor explicit b) = timeoutFor explicit (max a b) := by
  cases explicit with
  | none => rfl
  | some timeout =>
    simp only [timeoutFor]
    split <;> split <;> split <;> omega

/-- A part of a call that posts nothing. -/
def unposted (e : Event waiting) : Prop := (∀ c timeout, e.op ≠ .post c timeout) ∧ e.op ≠ .cancel

theorem countP_unposted (h : ∀ e ∈ t, unposted e) : t.countP (owesCancel l) = 0 ∧ t.countP isCancel = 0 := by
  constructor
  · rw [List.countP_eq_zero]
    intro e he
    obtain ⟨o, a⟩ := e
    cases o with
    | post c timeout => exact absurd rfl ((h _ he).1 c timeout)
    | _ => simp [owesCancel]
  · rw [List.countP_eq_zero]
    intro e he
    simpa [isCancel] using (h e he).2

theorem emits_getStatus : Emits unposted getStatus := by
  refine emits_bind (emits_query fun _ => ⟨nofun, nofun⟩) fun reply => ?_
  cases reply with
  | status seconds => exact emits_query fun _ => ⟨nofun, nofun⟩
  | _ => exact emits_done _

theorem emits_attempt {α : Type} {p : WaitFlow α} {S : Event waiting → Prop} (h : Emits S p) : Emits S p.attempt := by
  intro t r hr
  obtain ⟨r', hp, -⟩ := runs_attempt.mp hr
  exact h t r' hp

theorem emits_discoverApprovalWait (l : Language) : Emits unposted (discoverApprovalWait l) := by
  refine emits_bind (emits_query fun _ => ⟨nofun, nofun⟩) fun now => ?_
  refine emits_bind (emits_query fun _ => ⟨nofun, nofun⟩) fun stale => ?_
  cases stale with
  | false => exact emits_done _
  | true =>
    refine emits_bind (emits_attempt emits_getStatus) fun outcome => ?_
    show Emits unposted (if _ then _ else _)
    split <;> exact emits_done _

theorem obeys_getStatus : Obeys (waitMonitor l explicit) v getStatus := by
  refine obeys_query_bind fun reply => ⟨trivial, ?_⟩
  cases reply with
  | status seconds => exact obeys_query fun _ => List.mem_cons_self
  | _ => exact obeys_done _

theorem obeys_discoverApprovalWait : Obeys (waitMonitor l explicit) v (discoverApprovalWait l) := by
  refine obeys_query_bind fun now => ⟨trivial, obeys_query_bind fun stale => ⟨trivial, ?_⟩⟩
  cases stale with
  | false => exact obeys_done _
  | true =>
    refine obeys_bind (obeys_attempt obeys_getStatus) fun t outcome _ => ?_
    show Obeys _ _ (if _ then _ else _)
    split <;> exact obeys_done _

theorem obeys_signRequestTimeout : Obeys (waitMonitor l explicit) v signRequestTimeout :=
  obeys_query_bind fun _ => ⟨trivial, obeys_query_bind fun _ => ⟨rfl, obeys_done _⟩⟩

theorem obeys_callTimeout (c : WaitCall) : Obeys (waitMonitor l explicit) v (callTimeout l explicit c) := by
  have hsign : Obeys (waitMonitor l explicit) v (callTimeout l explicit .sign) :=
    obeys_bind obeys_discoverApprovalWait fun _ _ _ => obeys_bind obeys_signRequestTimeout fun _ _ _ => obeys_done _
  cases c with
  | status => exact hsign
  | sign => exact hsign
  | component cosigner =>
    cases cosigner with
    | true => exact obeys_done _
    | false =>
      refine obeys_bind obeys_discoverApprovalWait fun _ _ _ => obeys_bind obeys_signRequestTimeout fun _ _ _ => ?_
      cases l <;> exact obeys_done _

/-- What a call went by when it chose its timeout. -/
def WentBy (l : Language) (explicit : Option ℕ) (c : WaitCall) (t : Trace waiting) (timeout : ℕ) : Prop :=
  ∀ v, ∃ now wait, ((waitMonitor l explicit).after v t).looked = some (now, wait) ∧
    timeout = timeoutFor explicit (c.timeout wait)

/-- The timeout is made from the call's last look at what is kept. -/
theorem looked_wentBy (explicit : Option ℕ) {α : Type} {f : ℕ → WaitFlow α} {r : Except CallFailure α} {P : Option ℕ → Prop}
    (hf : ∀ wait t, Runs (f (approvalTimeout wait)) t r → t = [] ∧ P wait)
    (h : Runs (discoverApprovalWait l >>= fun _ => signRequestTimeout >>= f) t r) (hok : ∃ a, r = .ok a) :
    (∀ e ∈ t, unposted e) ∧
      ∃ wait, P wait ∧ ∀ v, ∃ now, ((waitMonitor l explicit).after v t).looked = some (now, wait) := by
  obtain ⟨a, rfl⟩ := hok
  obtain ⟨_, t₁, t₂, rfl, hdiscover, hrest⟩ := runs_bind_ok.mp h
  obtain ⟨approval, t₃, t₄, rfl, hlook, hlast⟩ := runs_bind_ok.mp hrest
  obtain ⟨now, t₅, rfl, hcached⟩ := runs_query_bind.mp hlook
  obtain ⟨wait, t₆, rfl, rfl, hwait⟩ := runs_query_bind.mp hcached
  cases hwait
  obtain ⟨rfl, hP⟩ := hf wait t₄ hlast
  refine ⟨fun e he => ?_, wait, hP, fun v => ⟨now, ?_⟩⟩
  · simp only [List.append_nil, List.mem_append, List.mem_cons, List.not_mem_nil, or_false] at he
    rcases he with he | rfl | rfl
    · exact emits_discoverApprovalWait l _ _ hdiscover e he
    · exact ⟨nofun, nofun⟩
    · exact ⟨nofun, nofun⟩
  · rw [Monitor.after_append]
    rfl

theorem callTimeout_ok {c : WaitCall} {timeout : ℕ} (h : Runs (callTimeout l explicit c) t (.ok timeout))
    (hc : c ≠ .status) : (∀ e ∈ t, unposted e) ∧
      (c = .component true ∧ timeout = timeoutFor explicit componentSignTimeout ∨
        c.bearsApproval = true ∧ WentBy l explicit c t timeout) := by
  cases c with
  | status => exact absurd rfl hc
  | sign =>
    obtain ⟨hunposted, wait, htimeout, hlooked⟩ := looked_wentBy explicit
      (P := fun wait => timeout = timeoutFor explicit (approvalTimeout wait)) (fun wait t ht => by
        obtain ⟨rfl, ht⟩ := ht
        cases ht
        exact ⟨rfl, rfl⟩) h ⟨_, rfl⟩
    exact ⟨hunposted, Or.inr ⟨rfl, fun v => (hlooked v).imp fun now hnow => ⟨wait, hnow, htimeout⟩⟩⟩
  | component cosigner =>
    cases cosigner with
    | true =>
      obtain ⟨rfl, ht⟩ := h
      cases ht
      exact ⟨nofun, Or.inl ⟨rfl, rfl⟩⟩
    | false =>
      obtain ⟨hunposted, wait, htimeout, hlooked⟩ := looked_wentBy explicit
        (P := fun wait => timeout = timeoutFor explicit (max componentSignTimeout (approvalTimeout wait)))
        (fun wait t ht => by
          cases l with
          | go =>
            obtain ⟨rfl, ht⟩ := ht
            cases ht
            refine ⟨rfl, congrArg _ ?_⟩
            split <;> omega
          | _ =>
            obtain ⟨rfl, ht⟩ := ht
            cases ht
            exact ⟨rfl, timeoutFor_max ..⟩) h ⟨_, rfl⟩
      exact ⟨hunposted, Or.inr ⟨rfl, fun v => (hlooked v).imp fun now hnow => ⟨wait, hnow, htimeout⟩⟩⟩

theorem obeys_postCall {c : WaitCall} {timeout : ℕ}
    (hpost : (waitMonitor l explicit).allows v ⟨.post c timeout, .answered⟩) :
    Obeys (waitMonitor l explicit) v (postCall l c timeout) := by
  refine obeys_query_bind fun reply => ⟨hpost, ?_⟩
  have hbalance := hpost.1
  cases reply with
  | answered => exact obeys_done _
  | raised =>
    by_cases howes : l ≠ .go ∧ c.bearsApproval = true
    · rw [if_pos rfl, if_pos howes]
      have howed : owesCancel l ⟨.post c timeout, .raised⟩ = true := by simp [owesCancel, howes.1, howes.2]
      refine obeys_query_bind fun _ => ⟨?_, obeys_done _⟩
      show v.owed + (owesCancel l ⟨.post c timeout, .raised⟩).toNat = v.cancels + 0 + 1
      rw [howed, hbalance]
      rfl
    · rw [if_pos rfl, if_neg howes]
      exact obeys_done _

/-- Whoever owes a cancel has asked for it at the end. -/
def Balanced (l : Language) (t : Trace waiting) : Prop := t.countP (owesCancel l) = t.countP isCancel

theorem Balanced.append {t' : Trace waiting} (h : Balanced l t) (h' : Balanced l t') : Balanced l (t ++ t') := by
  unfold Balanced at *
  rw [List.countP_append, List.countP_append]
  omega

theorem balanced_unposted (h : ∀ e ∈ t, unposted e) : Balanced l t := by
  obtain ⟨howed, hcancels⟩ := countP_unposted (l := l) h
  unfold Balanced
  omega

theorem balanced_postCall {c : WaitCall} {timeout : ℕ} {r : Except CallFailure Unit}
    (h : Runs (postCall l c timeout) t r) : Balanced l t := by
  obtain ⟨reply, t₁, rfl, hrest⟩ := runs_query_bind.mp h
  cases reply with
  | answered =>
    obtain ⟨rfl, -⟩ := hrest
    simp [Balanced, owesCancel, isCancel]
  | raised =>
    rw [if_pos rfl] at hrest
    by_cases howes : l ≠ .go ∧ c.bearsApproval = true
    · rw [if_pos howes] at hrest
      obtain ⟨_, t₂, rfl, rfl, -⟩ := runs_query_bind.mp hrest
      simp [Balanced, owesCancel, isCancel, howes.1, howes.2]
    · rw [if_neg howes] at hrest
      obtain ⟨rfl, -⟩ := hrest
      have hfree : owesCancel l ⟨.post c timeout, .raised⟩ = false := by
        rw [not_and] at howes
        simpa [owesCancel] using howes
      simp [Balanced, hfree, isCancel]

theorem callTimeout_unposted {c : WaitCall} {r : Except CallFailure ℕ} (h : Runs (callTimeout l explicit c) t r) :
    ∀ e ∈ t, unposted e := by
  have hsign : Emits unposted signRequestTimeout :=
    emits_bind (emits_query fun _ => ⟨nofun, nofun⟩) fun _ =>
      emits_bind (emits_query fun _ => ⟨nofun, nofun⟩) fun _ => emits_done _
  have hquiet : ∀ f : ℕ → WaitFlow ℕ, (∀ n, Emits unposted (f n)) →
      Emits unposted (discoverApprovalWait l >>= fun _ => signRequestTimeout >>= f) := fun f hf =>
    emits_bind (emits_discoverApprovalWait l) fun _ => emits_bind hsign hf
  cases c with
  | status => exact hquiet _ (fun _ => emits_done _) t r h
  | sign => exact hquiet _ (fun _ => emits_done _) t r h
  | component cosigner =>
    cases cosigner with
    | true => exact emits_done _ t r h
    | false => cases l <;> exact hquiet _ (fun _ => emits_done _) t r h

theorem balanced_clientCall {c : WaitCall} {r : Except CallFailure Unit} (h : Runs (clientCall l explicit c) t r) :
    Balanced l t := by
  have hpost : ∀ c : WaitCall, Runs (callTimeout l explicit c >>= postCall l c) t r → Balanced l t := by
    intro c hrun
    rcases runs_bind.mp hrun with ⟨e, htimeout, -⟩ | ⟨timeout, t₁, t₂, rfl, htimeout, hrest⟩
    · exact balanced_unposted (callTimeout_unposted htimeout)
    · exact (balanced_unposted (callTimeout_unposted htimeout)).append (balanced_postCall hrest)
  cases c with
  | status => exact balanced_unposted (emits_getStatus t r h)
  | sign => exact hpost _ h
  | component cosigner => exact hpost _ h

theorem obeys_clientCall (c : WaitCall) (hbalance : v.owed = v.cancels) :
    Obeys (waitMonitor l explicit) v (clientCall l explicit c) := by
  have hpost : ∀ c : WaitCall, c ≠ .status →
      Obeys (waitMonitor l explicit) v (callTimeout l explicit c >>= postCall l c) := by
    intro c hc
    refine obeys_bind (obeys_callTimeout c) fun t timeout ht => ?_
    obtain ⟨hunposted, htimeout⟩ := callTimeout_ok ht hc
    obtain ⟨howed, hcancels⟩ := countP_unposted (l := l) hunposted
    apply obeys_postCall
    refine ⟨?_, htimeout.imp_right fun hlook => ⟨hlook.1, hlook.2 v⟩⟩
    rw [after_owed, after_cancels]
    omega
  cases c with
  | status => exact obeys_getStatus
  | sign => exact hpost _ nofun
  | component cosigner => exact hpost _ nofun

theorem balanced_clientCalls : ∀ {cs : List WaitCall} {t : Trace waiting} {r : Except CallFailure Unit},
    Runs (clientCalls l explicit cs) t r → Balanced l t
  | [], t, r, h => by
    obtain ⟨rfl, -⟩ := h
    rfl
  | c :: cs, t, r, h => by
    rcases runs_bind.mp h with ⟨e, hattempt, -⟩ | ⟨outcome, t₁, t₂, rfl, hattempt, hrest⟩
    · obtain ⟨_, -, hok⟩ := runs_attempt.mp hattempt
      cases hok
    · obtain ⟨_, hcall, -⟩ := runs_attempt.mp hattempt
      exact (balanced_clientCall hcall).append (balanced_clientCalls hrest)

theorem obeys_clientCalls (cs : List WaitCall) (hbalance : v.owed = v.cancels) :
    Obeys (waitMonitor l explicit) v (clientCalls l explicit cs) := by
  induction cs generalizing v with
  | nil => exact obeys_done _
  | cons c cs ih =>
    refine obeys_bind (obeys_attempt (obeys_clientCall c hbalance)) fun t outcome ht => ?_
    obtain ⟨_, hcall, -⟩ := runs_attempt.mp ht
    have hbalanced : t.countP (owesCancel l) = t.countP isCancel := balanced_clientCall hcall
    apply ih
    rw [after_owed, after_cancels]
    omega

end Obeying

/-! ### What is kept -/

/-- What a look at `now` finds, in milliseconds, where these are the reports. -/
def usableWait (reports : List (ℕ × ℤ)) (now : ℕ) : Option ℕ :=
  match reports with
  | [] => none
  | (fetched, seconds) :: _ =>
    if usableSeconds seconds ≠ 0 ∧ now ≤ fetched + approvalWaitRefresh then some (usableSeconds seconds * 1000) else none

/-- A look at `now` found `wait`; what was kept since then is no older. -/
def LookedAt (s : WaitState) (now : ℕ) (wait : Option ℕ) : Prop :=
  now ≤ s.clock ∧ ∃ newer older, s.reports = newer ++ older ∧ (∀ r ∈ newer, now ≤ r.1) ∧ wait = usableWait older now

/-- The variables of the client are those of the newest report. -/
def Kept (s : WaitState) : Prop :=
  match s.reports with
  | [] => s.known = false
  | (fetched, seconds) :: _ => s.known = true ∧ s.fetched = fetched ∧ s.wait = usableSeconds seconds

structure WaitInv (s : WaitState) (v : ℕ → WaitView) : Prop where
  kept : Kept s
  answered : ∀ r ∈ s.reports, ∃ i, r.2 ∈ (v i).answers
  now : ∀ i now, (v i).now = some now → now ≤ s.clock
  looked : ∀ i now wait, (v i).looked = some (now, wait) → LookedAt s now wait
  balance : ∀ i, (v i).cancels ≤ (v i).owed ∧ (v i).owed ≤ (v i).cancels + 1

section Keeping

variable {l : Language} {explicit : Option ℕ} {s s' : WaitState} {v : ℕ → WaitView} {i : ℕ}

theorem WaitInv.update (h : WaitInv s v) {w : WaitView} (hanswers : (v i).answers ⊆ w.answers)
    (hnow : ∀ now, w.now = some now → now ≤ s.clock)
    (hlooked : ∀ now wait, w.looked = some (now, wait) → LookedAt s now wait)
    (hbalance : w.cancels ≤ w.owed ∧ w.owed ≤ w.cancels + 1) : WaitInv s (Function.update v i w) := by
  refine { kept := h.kept, answered := fun r hr => ?_, now := fun j => ?_, looked := fun j => ?_, balance := fun j => ?_ }
  · obtain ⟨j, hj⟩ := h.answered r hr
    refine ⟨j, ?_⟩
    by_cases hij : j = i
    · subst hij
      rw [Function.update_self]
      exact hanswers hj
    · rw [Function.update_of_ne hij]
      exact hj
  · by_cases hij : j = i
    · subst hij
      rw [Function.update_self]
      exact hnow
    · rw [Function.update_of_ne hij]
      exact h.now j
  · by_cases hij : j = i
    · subst hij
      rw [Function.update_self]
      exact hlooked
    · rw [Function.update_of_ne hij]
      exact h.looked j
  · by_cases hij : j = i
    · subst hij
      rw [Function.update_self]
      exact hbalance
    · rw [Function.update_of_ne hij]
      exact h.balance j

theorem WaitInv.drift (h : WaitInv s v) (ticks : ℕ) : WaitInv { s with clock := s.clock + ticks } v where
  kept := h.kept
  answered := h.answered
  now i now hnow := by
    have := h.now i now hnow
    show now ≤ s.clock + ticks
    omega
  looked i now wait hlooked := by
    obtain ⟨hclock, hreports⟩ := h.looked i now wait hlooked
    refine ⟨?_, hreports⟩
    show now ≤ s.clock + ticks
    omega
  balance := h.balance

/-- What is kept is one more report, the newest. -/
theorem WaitInv.cacheWait (h : WaitInv s v) {seconds : ℤ} (hanswered : seconds ∈ (v i).answers) :
    WaitInv { s with
      wait := usableSeconds seconds
      fetched := s.clock
      known := true
      reports := (s.clock, seconds) :: s.reports } v where
  kept := ⟨rfl, rfl, rfl⟩
  answered r hr := by
    rcases List.mem_cons.mp hr with rfl | hr
    · exact ⟨i, hanswered⟩
    · exact h.answered r hr
  now := h.now
  looked j now wait hlooked := by
    obtain ⟨hclock, newer, older, hreports, hnewer, hwait⟩ := h.looked j now wait hlooked
    refine ⟨hclock, (s.clock, seconds) :: newer, older, ?_, ?_, hwait⟩
    · show (s.clock, seconds) :: s.reports = _
      rw [hreports]
      rfl
    · intro r hr
      rcases List.mem_cons.mp hr with rfl | hr
      · exact hclock
      · exact hnewer r hr
  balance := h.balance

/-- What a look finds is what the newest report gives. -/
theorem Kept.found (h : Kept s) (now : ℕ) :
    (if s.known = true ∧ s.wait ≠ 0 ∧ now ≤ s.fetched + approvalWaitRefresh then some (s.wait * 1000) else none) =
      usableWait s.reports now := by
  unfold Kept at h
  cases hreports : s.reports with
  | nil =>
    rw [hreports] at h
    have hunknown : s.known = false := h
    rw [if_neg (by simp [hunknown])]
    rfl
  | cons r older =>
    obtain ⟨fetched, seconds⟩ := r
    rw [hreports] at h
    obtain ⟨hknown, hfetched, hwait⟩ := h
    simp only [usableWait, hknown, hfetched, hwait, true_and]

/-- **What every step keeps.** -/
theorem WaitInv.step (h : WaitInv s v) {e : Event waiting} (hallows : (waitMonitor l explicit).allows (v i) e)
    (hans : waitMachine.answer s e.op e.ans = some s') :
    WaitInv s' (Function.update v i ((waitMonitor l explicit).next (v i) e)) := by
  obtain ⟨o, a⟩ := e
  cases o with
  | now =>
    simp only [waitMachine, Option.ite_none_right_eq_some, Option.some.injEq] at hans
    obtain ⟨rfl, rfl⟩ := hans
    refine h.update (fun _ hs => hs) (fun now hnow => ?_) (h.looked i) (h.balance i)
    cases hnow
    exact le_refl _
  | needsDiscovery now =>
    simp only [waitMachine, Option.ite_none_right_eq_some, Option.some.injEq] at hans
    obtain ⟨-, rfl⟩ := hans
    exact h.update (fun _ hs => hs) (h.now i) (h.looked i) (h.balance i)
  | getStatus =>
    cases hans
    cases a with
    | status seconds => exact h.update (fun _ hs => List.mem_cons_of_mem _ hs) (h.now i) (h.looked i) (h.balance i)
    | _ => exact h.update (fun _ hs => hs) (h.now i) (h.looked i) (h.balance i)
  | cacheWait seconds =>
    cases hans
    have hkept := h.cacheWait (i := i) hallows
    exact hkept.update (fun _ hs => hs) (hkept.now i) (hkept.looked i) (hkept.balance i)
  | cachedWait now =>
    simp only [waitMachine, Option.ite_none_right_eq_some, Option.some.injEq] at hans
    obtain ⟨hwait, rfl⟩ := hans
    refine h.update (fun _ hs => hs) (h.now i) (fun now' wait hlooked => ?_) (h.balance i)
    cases hlooked
    exact ⟨h.now i now hallows, [], s.reports, rfl, nofun, hwait.trans (h.kept.found now)⟩
  | post c timeout =>
    cases hans
    refine h.update (fun _ hs => hs) (h.now i) (h.looked i) ?_
    have hbalance : (v i).owed = (v i).cancels := hallows.1
    have howed := Bool.toNat_le (owesCancel l ⟨.post c timeout, a⟩)
    show (v i).cancels + 0 ≤ (v i).owed + (owesCancel l ⟨.post c timeout, a⟩).toNat ∧
      (v i).owed + (owesCancel l ⟨.post c timeout, a⟩).toNat ≤ (v i).cancels + 0 + 1
    omega
  | cancel =>
    cases hans
    refine h.update (fun _ hs => hs) (h.now i) (h.looked i) ?_
    have howed : (v i).owed = (v i).cancels + 1 := hallows
    show (v i).cancels + 1 ≤ (v i).owed + 0 ∧ (v i).owed + 0 ≤ (v i).cancels + 1 + 1
    omega

end Keeping

/-! ### Every interleaving -/

section Interleavings

variable {l : Language} {explicit : Option ℕ} {start : ℕ} {callers : List (List WaitCall)}
  {ms : List (Move waiting ℕ)} {pool : Pool waiting CallFailure Unit WaitState} {i : ℕ}

theorem mem_waitPool {p : WaitFlow Unit} (h : p ∈ (waitPool l explicit start callers).threads) :
    ∃ cs, p = clientCalls l explicit cs := by
  cases l with
  | python => exact ⟨_, List.mem_singleton.mp h⟩
  | _ =>
    obtain ⟨cs, -, rfl⟩ := List.mem_map.mp h
    exact ⟨cs, rfl⟩

theorem obeys_waitPool (i : ℕ) (p : WaitFlow Unit) (hp : (waitPool l explicit start callers).threads[i]? = some p) :
    Obeys (waitMonitor l explicit) {} p := by
  obtain ⟨cs, rfl⟩ := mem_waitPool (List.mem_of_getElem? hp)
  exact obeys_clientCalls cs rfl

theorem waitInv_run
    (hrun : Pool.run waitMachine (fun _ _ _ => true) (waitPool l explicit start callers) ms = some pool) :
    WaitInv pool.shared (views (waitMonitor l explicit) (fun _ => {}) ms) := by
  refine Pool.run_views WaitInv obeys_waitPool ?_ ?_ (fun _ _ _ _ _ _ h hallows hans => h.step hallows hans) hrun
  · exact ⟨rfl, nofun, nofun, nofun, fun _ => by simp⟩
  · intro s v ticks s' h hs
    cases hs
    exact h.drift ticks

theorem mem_answers {seconds : ℤ} : ∀ {t : Trace waiting} {v : WaitView},
    seconds ∈ ((waitMonitor l explicit).after v t).answers →
      seconds ∈ v.answers ∨ ⟨.getStatus, .status seconds⟩ ∈ t
  | [], _, h => Or.inl h
  | e :: t, v, h => by
    rcases mem_answers (t := t) h with hfirst | hlater
    · obtain ⟨o, a⟩ := e
      cases o with
      | getStatus =>
        cases a with
        | status seconds' =>
          rcases List.mem_cons.mp hfirst with rfl | hold
          · exact Or.inr List.mem_cons_self
          · exact Or.inl hold
        | _ => exact Or.inl hfirst
      | _ => exact Or.inl hfirst
    · exact Or.inr (List.mem_cons_of_mem _ hlater)

theorem usableSeconds_le (seconds : ℤ) : usableSeconds seconds ≤ 1800 := by
  unfold usableSeconds maxDiscoveredApprovalWait
  split
  · omega
  · omega

theorem usableWait_le {reports : List (ℕ × ℤ)} {now wait : ℕ} (h : usableWait reports now = some wait) :
    wait ≤ 1800000 := by
  cases reports with
  | nil => cases h
  | cons r older =>
    obtain ⟨fetched, seconds⟩ := r
    simp only [usableWait, Option.ite_none_right_eq_some, Option.some.injEq] at h
    have := usableSeconds_le seconds
    omega

theorem timeout_le (c : WaitCall) (reports : List (ℕ × ℤ)) (now : ℕ) :
    c.timeout (usableWait reports now) ≤ 1830000 := by
  have hwait : approvalTimeout (usableWait reports now) ≤ 1830000 := by
    cases hfound : usableWait reports now with
    | none =>
      show defaultSignRequestTimeout ≤ _
      decide
    | some wait =>
      have := usableWait_le hfound
      show wait + 30000 ≤ _
      omega
  cases c with
  | component cosigner => exact max_le (by decide) hwait
  | _ => exact hwait

theorem timeoutFor_le (explicit : Option ℕ) (default : ℕ) : timeoutFor explicit default ≤ default := by
  unfold timeoutFor
  split
  · split <;> omega
  · exact le_refl _

/-- **Timeouts follow what the signer reported.** Whatever calls of a client are
under way, in any order of their steps: a post that waits for an operator has
the timeout that the newest report gave as the call looked, half a minute over
the wait if that is usable and no more than five minutes old, else six minutes;
what was kept since is no older than that look. All reports are answers of
`/status`. No timeout is over 1830 s, or over the client's own. -/
theorem approvalWait_followed {c : WaitCall} {timeout : ℕ} {reply : PostReply}
    (hrun : Pool.run waitMachine (fun _ _ _ => true) (waitPool l explicit start callers)
      (ms ++ [.thread i ⟨.post c timeout, reply⟩]) = some pool) :
    (c = .component true ∧ timeout = timeoutFor explicit componentSignTimeout ∨
      c.bearsApproval = true ∧ ∃ look newer older, look ≤ pool.shared.clock ∧ pool.shared.reports = newer ++ older ∧
        (∀ r ∈ newer, look ≤ r.1) ∧ timeout = timeoutFor explicit (c.timeout (usableWait older look))) ∧
      (∀ r ∈ pool.shared.reports, ∃ j, ⟨.getStatus, .status r.2⟩ ∈ eventsOf j ms) ∧
        timeout ≤ 1830000 ∧ ∀ own, explicit = some own → timeout ≤ own := by
  obtain ⟨pool₁, hbefore, -, hstep⟩ := (Pool.run_snoc (M := waitMachine)).mp hrun
  have hinv := waitInv_run hbefore
  have hallowed := Pool.step_allowed (obeys_waitPool i) hbefore hstep
  obtain ⟨k, s, -, hs, rfl⟩ := (Pool.step_thread (M := waitMachine)).mp hstep
  cases hs
  have htimeout : c = .component true ∧ timeout = timeoutFor explicit componentSignTimeout ∨
      c.bearsApproval = true ∧ ∃ look newer older, look ≤ pool₁.shared.clock ∧
        pool₁.shared.reports = newer ++ older ∧ (∀ r ∈ newer, look ≤ r.1) ∧
          timeout = timeoutFor explicit (c.timeout (usableWait older look)) := by
    refine hallowed.2.imp_right fun hwaits => ⟨hwaits.1, ?_⟩
    obtain ⟨now, wait, hlooked, rfl⟩ := hwaits.2
    obtain ⟨hclock, newer, older, hreports, hnewer, rfl⟩ := hinv.looked i now wait hlooked
    exact ⟨now, newer, older, hclock, hreports, hnewer, rfl⟩
  refine ⟨htimeout, fun r hr => ?_, ?_, ?_⟩
  · obtain ⟨j, hj⟩ := hinv.answered r hr
    exact ⟨j, (mem_answers hj).resolve_left (by simp)⟩
  · rcases htimeout with ⟨-, rfl⟩ | ⟨-, look, newer, older, -, -, -, rfl⟩
    · apply (timeoutFor_le ..).trans
      decide
    · exact (timeoutFor_le ..).trans (timeout_le ..)
  · intro own hown
    have hcap : ∀ default, timeoutFor explicit default ≤ own := by
      intro default
      rw [hown]
      show (if own < default then own else default) ≤ own
      split <;> omega
    rcases htimeout with ⟨-, rfl⟩ | ⟨-, look, newer, older, -, -, -, rfl⟩
    · exact hcap _
    · exact hcap _

/-- **A call that failed on the way is canceled, and only then.** In Python and
TypeScript each caller has, at any time, asked for as many cancels as posts that
bear approval failed, or for one less where it is about to; once it is done, for
as many. -/
theorem raised_canceled
    (hrun : Pool.run waitMachine (fun _ _ _ => true) (waitPool l explicit start callers) ms = some pool) (i : ℕ) :
    (eventsOf i ms).countP isCancel ≤ (eventsOf i ms).countP (owesCancel l) ∧
      (eventsOf i ms).countP (owesCancel l) ≤ (eventsOf i ms).countP isCancel + 1 ∧
        ∀ r, pool.threads[i]? = some (done r) →
          (eventsOf i ms).countP (owesCancel l) = (eventsOf i ms).countP isCancel := by
  have hinv := waitInv_run hrun
  have hbalance := hinv.balance i
  rw [views, after_owed, after_cancels] at hbalance
  refine ⟨by simpa using hbalance.1, by simpa using hbalance.2, fun r hdone => ?_⟩
  have hi : i < (waitPool l explicit start callers).threads.length := by
    rw [← Pool.run_length hrun]
    exact (List.getElem?_eq_some_iff.mp hdone).1
  obtain ⟨p, hp, hleads⟩ := Pool.run_leads (List.getElem?_eq_getElem hi) hrun
  rw [hdone] at hp
  cases Option.some.inj hp
  obtain ⟨cs, hcs⟩ := mem_waitPool (List.getElem_mem hi)
  rw [hcs] at hleads
  exact balanced_clientCalls hleads.runs

end Interleavings

/-- Only in Python a discovery fails a call, where the signer answers with a
body that is no status. -/
theorem discovery_fails {l : Language} {t : Trace waiting} {e : CallFailure}
    (h : Runs (discoverApprovalWait l) t (.error e)) :
    l = .python ∧ e = .unreadableStatus ∧ ⟨.getStatus, .unreadable⟩ ∈ t := by
  obtain ⟨now, t₁, rfl, hnow⟩ := runs_query_bind.mp h
  obtain ⟨stale, t₂, rfl, hstale⟩ := runs_query_bind.mp hnow
  cases stale with
  | false => cases hstale.2
  | true =>
    rcases runs_bind.mp hstale with ⟨e', hattempt, -⟩ | ⟨outcome, t₃, t₄, rfl, hattempt, hrest⟩
    · obtain ⟨_, -, hok⟩ := runs_attempt.mp hattempt
      cases hok
    · by_cases hfails : l = .python ∧ outcome = .error .unreadableStatus
      · obtain ⟨_, hstatus, houtcome⟩ := runs_attempt.mp hattempt
        cases houtcome
        obtain ⟨rfl, houtcome⟩ := hfails
        subst houtcome
        rw [if_pos ⟨rfl, rfl⟩] at hrest
        obtain ⟨-, he⟩ := hrest
        cases he
        obtain ⟨reply, t₅, rfl, hread⟩ := runs_query_bind.mp hstatus
        cases reply with
        | unreadable => simp
        | failed => cases hread.2
        | status seconds =>
          obtain ⟨_, -, hok⟩ := runs_query.mp hread
          cases hok
      · rw [if_neg hfails] at hrest
        cases hrest.2

namespace Demo

/-- Two callers share one report; the request of the first fails. -/
def sharedReport : List (Move waiting ℕ) :=
  [.thread 0 ⟨.now, 0⟩, .thread 0 ⟨.needsDiscovery 0, true⟩, .thread 0 ⟨.getStatus, .status 900⟩,
    .thread 1 ⟨.now, 0⟩, .thread 1 ⟨.needsDiscovery 0, true⟩, .thread 0 ⟨.cacheWait 900, ()⟩, .drift 10,
    .thread 1 ⟨.getStatus, .failed⟩, .thread 0 ⟨.now, 10⟩, .thread 0 ⟨.cachedWait 10, some 900000⟩,
    .thread 0 ⟨.post .sign 930000, .raised⟩, .thread 0 ⟨.cancel, ()⟩, .thread 1 ⟨.now, 10⟩,
    .thread 1 ⟨.cachedWait 10, some 900000⟩]

def twoCallers : Pool waiting CallFailure Unit WaitState :=
  waitPool .typescript none 0 [[.sign], [.component false]]

theorem approvalWait_followed_shared : ∃ pool,
    Pool.run waitMachine (fun _ _ _ => true) twoCallers
        (sharedReport ++ [.thread 1 ⟨.post (.component false) 930000, .answered⟩]) = some pool ∧
      pool.shared.reports = [(0, 900)] ∧
        ∀ r ∈ pool.shared.reports, ∃ j, ⟨.getStatus, .status r.2⟩ ∈ eventsOf j sharedReport := by
  obtain ⟨pool, hrun, hreports⟩ : ∃ pool,
      Pool.run waitMachine (fun _ _ _ => true) twoCallers
          (sharedReport ++ [.thread 1 ⟨.post (.component false) 930000, .answered⟩]) = some pool ∧
        pool.shared.reports = [(0, 900)] := ⟨_, rfl, rfl⟩
  exact ⟨pool, hrun, hreports, (approvalWait_followed hrun).2.1⟩

theorem raised_canceled_shared : ∃ pool,
    Pool.run waitMachine (fun _ _ _ => true) twoCallers sharedReport = some pool ∧
      (eventsOf 0 sharedReport).countP (owesCancel .typescript) = (eventsOf 0 sharedReport).countP isCancel := by
  obtain ⟨pool, hrun, hdone⟩ : ∃ pool,
      Pool.run waitMachine (fun _ _ _ => true) twoCallers sharedReport = some pool ∧
        pool.threads[0]? = some (done (.ok ())) := ⟨_, rfl, rfl⟩
  exact ⟨pool, hrun, (raised_canceled hrun 0).2.2 _ hdone⟩

end Demo

end AplaneSdk
