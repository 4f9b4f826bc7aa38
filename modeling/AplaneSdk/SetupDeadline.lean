/-
# The setup deadline of the Python tunnel

`_SSHTunnel.start` connects, verifies the host key and authenticates while a
timer thread stands ready to shut the socket down. The two share the socket and
two flags, under a lock: the timer does nothing once the setup is complete, and
the setup is not complete once the timer has fired, or the deadline has passed
at the last look. So the two never both happen, in no order of steps, and no
timer stays armed. Whoever loses, the socket does not stay open, except where
the time runs out between `paramiko.Transport(sock)` and `start_client`:
`Transport.close()` does nothing before `start_client`.

Key definitions: `SetupOp`, `Python.start`, `Python.expireSetup`,
`SetupState`, `setupMachine`, `SetupView`, `SetupInv`.
Key theorems: `SetupInv.step`, `setup_atDeadline`.
-/
import AplaneSdk.Lib.Views
import AplaneSdk.Wire

namespace AplaneSdk

open Interaction Interaction.Prog

/-! ### The two threads -/

/-- The classes of exception the handler of `start` tells apart. -/
inductive PyClass
  /-- `TimeoutError`, `socket.timeout`. -/
  | timeoutError
  | signerError
  | authenticationError
  /-- `paramiko.ssh_exception.AuthenticationException`. -/
  | authenticationException
  /-- Any other `SSHException`. -/
  | sshException
  | other
  deriving DecidableEq

structure PyException where
  cls : PyClass
  text : String
  deriving DecidableEq

/-- What may raise during the setup. -/
inductive SetupCall
  /-- `socket.create_connection`. -/
  | createConnection
  /-- `sock.settimeout`. -/
  | setTimeout
  /-- `paramiko.Transport(sock)`. -/
  | newTransport
  | startClient
  /-- `get_remote_server_key` and `_verify_host_key`. -/
  | verifyHostKey
  | authPublickey
  deriving DecidableEq

inductive SetupParty
  | main
  | timer
  deriving DecidableEq

/-- The steps of the two threads. -/
inductive SetupOp
  /-- `time.monotonic()`. -/
  | monotonic
  | call (c : SetupCall)
  /-- `timeout_timer.start()`. -/
  | startTimer (interval : ℕ)
  | isAuthenticated
  | acquire (who : SetupParty)
  | release (who : SetupParty)
  /-- `setup_timed_out.is_set()`. -/
  | timedOut
  | setTimedOut
  /-- Whether `setup_complete` is set. -/
  | complete
  | setComplete
  /-- Whether `timeout_timer` is there. -/
  | hasTimer
  | cancelTimer
  /-- The timer thread waits: to fire, or to be cancelled. -/
  | awaitTimer
  /-- Whether `transport` is there. -/
  | hasTransport
  | closeTransport
  /-- Whether `sock` is there. -/
  | hasSocket
  | shutdownSocket
  | closeSocket
  deriving DecidableEq

@[reducible] def SetupOp.Ans : SetupOp → Type
  | monotonic => ℕ
  | call _ => Option PyException
  | isAuthenticated | timedOut | complete | hasTimer | awaitTimer | hasTransport | hasSocket => Bool
  | _ => Unit

abbrev setup : Iface := ⟨SetupOp, SetupOp.Ans⟩

abbrev SetupFlow := Prog setup PyException

namespace Python

def deadlineExceeded : PyException := ⟨.timeoutError, "SSH setup deadline exceeded"⟩

/-- `remaining_setup_time`. -/
def remainingSetupTime (deadline : ℕ) : SetupFlow ℕ := do
  let now ← query (I := setup) .monotonic
  if deadline ≤ now then throw deadlineExceeded else pure (deadline - now)

/-- A step that returns or raises. -/
def call (c : SetupCall) : SetupFlow Unit := do
  let raised ← query (I := setup) (.call c)
  match raised with
  | none => pure ()
  | some exc => throw exc

/-- The block under the lock: the setup is complete unless it is too late. -/
def completeSetup (deadline : ℕ) : SetupFlow Unit := do
  query (I := setup) (.acquire .main)
  let expired ← query (I := setup) .timedOut
  if expired then
    query (I := setup) (.release .main)
    throw deadlineExceeded
  let now ← query (I := setup) .monotonic
  if deadline ≤ now then
    query (I := setup) (.release .main)
    throw deadlineExceeded
  query (I := setup) .setComplete
  query (I := setup) (.release .main)

/-- The body of the `try` up to the block under the lock. -/
def authenticate (deadline : ℕ) : SetupFlow Unit := do
  let _ ← remainingSetupTime deadline
  call .createConnection
  let _ ← remainingSetupTime deadline
  call .setTimeout
  let interval ← remainingSetupTime deadline
  query (I := setup) (.startTimer interval)
  call .newTransport
  let _ ← remainingSetupTime deadline
  call .startClient
  call .verifyHostKey
  let _ ← remainingSetupTime deadline
  call .setTimeout
  call .authPublickey
  let authenticated ← query (I := setup) .isAuthenticated
  if authenticated = false then
    throw ⟨.signerError, "SSH public-key authentication did not complete"⟩

/-- The body of the `try`. -/
def establish (deadline : ℕ) : SetupFlow Unit := do
  authenticate deadline
  completeSetup deadline
  query (I := setup) .cancelTimer
  call .setTimeout

/-- `if timeout_timer is not None: timeout_timer.cancel()`. -/
def cancelTimer : SetupFlow Unit := do
  let started ← query (I := setup) .hasTimer
  if started then
    query (I := setup) .cancelTimer

/-- `transport.close()`, else `sock.close()`. -/
def closeConnection : SetupFlow Unit := do
  let connected ← query (I := setup) .hasTransport
  if connected then
    query (I := setup) .closeTransport
  else
    let opened ← query (I := setup) .hasSocket
    if opened then
      query (I := setup) .closeSocket

def setupTimedOut (seconds : String) : PyException :=
  ⟨.signerError, s!"SSH setup timed out after {seconds} seconds"⟩

def clientSshKeyRequirement : String := "Ed25519 or ECDSA (P-256/384/521)"

/-- What an exception that is no timeout is raised as. -/
def translated (exc : PyException) : PyException :=
  match exc.cls with
  | .authenticationException => ⟨.authenticationError,
      s!"SSH authentication failed: {exc.text}: the client's SSH key is not enrolled at the signer, or was revoked " ++
        s!"(the signer accepts {clientSshKeyRequirement} client keys); enroll it with request_enrollment or " ++
        "apshell enroll"⟩
  | .sshException => ⟨.signerError, s!"SSH connection failed: {exc.text}"⟩
  | _ => exc

/-- The `except` block. -/
def abandonSetup (seconds : String) (deadline : ℕ) (exc : PyException) : SetupFlow Unit := do
  cancelTimer
  closeConnection
  let expired ← query (I := setup) .timedOut
  if expired = true ∨ exc.cls = .timeoutError then
    throw (setupTimedOut seconds)
  let now ← query (I := setup) .monotonic
  if deadline ≤ now then
    throw (setupTimedOut seconds)
  throw (translated exc)

/-- `_SSHTunnel.start` from its `try` on; `seconds` is the setup timeout as it
is shown, and `deadline` the clock before plus the timeout. -/
def start (seconds : String) (deadline : ℕ) : SetupFlow Unit :=
  finallyDo (do
    let outcome ← (establish deadline).attempt
    match outcome with
    | .ok () => pure ()
    | .error exc => abandonSetup seconds deadline exc) cancelTimer

/-- `expire_setup`, run by the timer thread. -/
def expireSetup : SetupFlow Unit := do
  let fires ← query (I := setup) .awaitTimer
  if fires then
    query (I := setup) (.acquire .timer)
    let complete ← query (I := setup) .complete
    if complete then
      query (I := setup) (.release .timer)
    else
      query (I := setup) .setTimedOut
      let opened ← query (I := setup) .hasSocket
      if opened then
        query (I := setup) .shutdownSocket
        query (I := setup) .closeSocket
      query (I := setup) (.release .timer)

end Python

/-! ### What they share -/

inductive SocketState
  | absent
  | connected
  /-- Shut down or closed. -/
  | closed
  deriving DecidableEq

inductive TimerState
  | absent
  | armed (due : ℕ)
  | cancelled
  | fired
  deriving DecidableEq

structure SetupState where
  clock : ℕ := 0
  socket : SocketState := .absent
  transport : Bool := false
  /-- `start_client` has been called. -/
  clientStarted : Bool := false
  timer : TimerState := .absent
  lock : Option SetupParty := none
  timedOut : Bool := false
  complete : Bool := false

/-- Any call may return or raise at any time, whatever the state of the socket.
`Transport.close()` returns at once while the transport is not active: before
`start_client`, which activates it, or once its own thread has ended, and then
that thread has closed the socket. -/
def setupMachine : Machine setup ℕ SetupState where
  answer s
    | .monotonic, now => if now = s.clock then some s else none
    | .call .createConnection, none => some { s with socket := .connected }
    | .call .newTransport, none => some { s with transport := true }
    | .call .startClient, _ => some { s with clientStarted := true }
    | .call _, _ => some s
    | .startTimer interval, () => some { s with timer := .armed (s.clock + interval) }
    | .isAuthenticated, _ => some s
    | .acquire who, () => if s.lock = none then some { s with lock := some who } else none
    | .release who, () => if s.lock = some who then some { s with lock := none } else none
    | .timedOut, b => if b = s.timedOut then some s else none
    | .setTimedOut, () => some { s with timedOut := true }
    | .complete, b => if b = s.complete then some s else none
    | .setComplete, () => some { s with complete := true }
    | .hasTimer, b => if b = (s.timer != .absent) then some s else none
    | .cancelTimer, () => match s.timer with
      | .armed _ => some { s with timer := .cancelled }
      | _ => some s
    | .awaitTimer, fires => match s.timer, fires with
      | .armed due, true => if due ≤ s.clock then some { s with timer := .fired } else none
      | .cancelled, false => some s
      | _, _ => none
    | .hasTransport, b => if b = s.transport then some s else none
    | .hasSocket, b => if b = (s.socket != .absent) then some s else none
    | .closeTransport, () => some (if s.clientStarted then { s with socket := .closed } else s)
    | .shutdownSocket, () | .closeSocket, () => some { s with socket := .closed }
  drift s ticks := some { s with clock := s.clock + ticks }

/-- A setup that begins at clock `now`. -/
def setupPool (seconds : String) (now deadline : ℕ) : Pool setup PyException Unit SetupState where
  shared := { clock := now }
  threads := [Python.start seconds deadline, Python.expireSetup]

/-! ### What each thread knows -/

/-- What a thread has seen and done. -/
structure SetupView where
  isMain : Bool
  /-- Its last look at the clock. -/
  looked : ℕ := 0
  opened : Bool := false
  started : Bool := false
  cancelled : Bool := false
  completed : Bool := false
  /-- It has shut or closed the socket. -/
  closed : Bool := false
  clientStarted : Bool := false
  sawTransport : Bool := false
  /-- It has closed the transport. -/
  hungUp : Bool := false
  sawNoSocket : Bool := false
  sawNoTimer : Bool := false
  fired : Bool := false
  expired : Bool := false
  holds : Bool := false
  /-- It holds the lock and found `setup_timed_out` unset. -/
  unexpired : Bool := false
  /-- It holds the lock and found `setup_complete` unset. -/
  incomplete : Bool := false

/-- What a thread may do, by what it knows. -/
def SetupView.allows (deadline : ℕ) (v : SetupView) : SetupOp → Prop
  | .call .createConnection => v.isMain = true ∧ v.opened = false ∧ v.sawNoSocket = false ∧ v.closed = false ∧
      v.hungUp = false
  | .call .startClient => v.isMain = true ∧ v.hungUp = false
  | .startTimer interval => v.isMain = true ∧ v.started = false ∧ v.sawNoTimer = false ∧ v.cancelled = false ∧
      deadline ≤ v.looked + interval
  | .acquire who => (who = .main ↔ v.isMain = true) ∧ v.holds = false
  | .release who => (who = .main ↔ v.isMain = true) ∧ v.holds = true
  | .setComplete => v.isMain = true ∧ v.unexpired = true ∧ v.looked < deadline
  | .setTimedOut => v.isMain = false ∧ v.incomplete = true ∧ v.fired = true
  | .shutdownSocket | .closeSocket => v.isMain = true ∨ v.incomplete = true ∧ v.expired = true
  | .cancelTimer => v.isMain = true
  | .closeTransport => v.isMain = true ∧ v.sawTransport = true
  | .awaitTimer => v.isMain = false
  | _ => True

def setupMonitor (deadline : ℕ) : Monitor setup SetupView where
  next v
    | ⟨.monotonic, now⟩ => { v with looked := now }
    | ⟨.call .createConnection, none⟩ => { v with opened := true }
    | ⟨.call .startClient, _⟩ => { v with clientStarted := true }
    | ⟨.startTimer _, _⟩ => { v with started := true }
    | ⟨.acquire _, _⟩ => { v with holds := true }
    | ⟨.release _, _⟩ => { v with holds := false, unexpired := false, incomplete := false }
    | ⟨.timedOut, false⟩ => { v with unexpired := v.holds }
    | ⟨.complete, false⟩ => { v with incomplete := v.holds }
    | ⟨.setComplete, _⟩ => { v with completed := true }
    | ⟨.setTimedOut, _⟩ => { v with expired := true }
    | ⟨.hasTimer, false⟩ => { v with sawNoTimer := true }
    | ⟨.cancelTimer, _⟩ => { v with cancelled := true }
    | ⟨.awaitTimer, true⟩ => { v with fired := true }
    | ⟨.hasSocket, false⟩ => { v with sawNoSocket := true }
    | ⟨.hasTransport, true⟩ => { v with sawTransport := true }
    | ⟨.closeTransport, _⟩ => { v with hungUp := true }
    | ⟨.shutdownSocket, _⟩ | ⟨.closeSocket, _⟩ => { v with closed := true }
    | _ => v
  allows v e := v.allows deadline e.op

section Obeying

variable {deadline : ℕ} {v : SetupView} {α : Type}

theorem obeys_remainingSetupTime {f : ℕ → SetupFlow α}
    (h : ∀ now, now < deadline → Obeys (setupMonitor deadline) { v with looked := now } (f (deadline - now))) :
    Obeys (setupMonitor deadline) v (Python.remainingSetupTime deadline >>= f) := by
  intro now
  refine ⟨trivial, ?_⟩
  change Obeys _ _ ((if deadline ≤ now then throw Python.deadlineExceeded else pure (deadline - now)) >>= f)
  by_cases hlate : deadline ≤ now
  · rw [if_pos hlate]
    exact obeys_done _
  · rw [if_neg hlate]
    exact h now (Nat.lt_of_not_le hlate)

theorem obeys_setupCall {c : SetupCall} {f : Unit → SetupFlow α} (hallows : v.allows deadline (.call c))
    (h : Obeys (setupMonitor deadline) ((setupMonitor deadline).next v ⟨.call c, none⟩) (f ())) :
    Obeys (setupMonitor deadline) v (Python.call c >>= f) := by
  intro raised
  refine ⟨hallows, ?_⟩
  cases raised with
  | none => exact h
  | some exc => exact obeys_done _

/-- Only looks at the clock and calls that open nothing. -/
theorem obeys_authenticate : Obeys (setupMonitor deadline) { isMain := true } (Python.authenticate deadline) := by
  refine obeys_remainingSetupTime fun _ _ => obeys_setupCall ⟨rfl, rfl, rfl, rfl, rfl⟩ ?_
  refine obeys_remainingSetupTime fun _ _ => obeys_setupCall trivial ?_
  refine obeys_remainingSetupTime fun now hnow => obeys_query_bind fun _ => ⟨⟨rfl, rfl, rfl, rfl, ?_⟩, ?_⟩
  · have hinterval : deadline ≤ now + (deadline - now) := by omega
    exact hinterval
  refine obeys_setupCall trivial <| obeys_remainingSetupTime fun _ _ => ?_
  refine obeys_setupCall ⟨rfl, rfl⟩ <| obeys_setupCall trivial ?_
  refine obeys_remainingSetupTime fun _ _ => obeys_setupCall trivial <| obeys_setupCall trivial ?_
  refine obeys_query_bind fun authenticated => ⟨trivial, ?_⟩
  cases authenticated <;> exact obeys_done _

/-- The setup is complete only as the main thread holds the lock, after it has
found neither the flag set nor the deadline passed. -/
theorem obeys_completeSetup (hmain : v.isMain = true) (hfree : v.holds = false) :
    Obeys (setupMonitor deadline) v (Python.completeSetup deadline) := by
  have hwho : SetupParty.main = .main ↔ v.isMain = true := ⟨fun _ => hmain, fun _ => rfl⟩
  refine obeys_query_bind fun _ => ⟨⟨hwho, hfree⟩, obeys_query_bind fun expired => ⟨trivial, ?_⟩⟩
  cases expired with
  | true => exact obeys_query_bind fun _ => ⟨⟨hwho, rfl⟩, obeys_done _⟩
  | false =>
    refine obeys_query_bind fun now => ⟨trivial, ?_⟩
    by_cases hlate : deadline ≤ now
    · simp only [if_pos hlate]
      exact obeys_query_bind fun _ => ⟨⟨hwho, rfl⟩, obeys_done _⟩
    · simp only [if_neg hlate]
      refine obeys_query_bind fun _ => ⟨⟨hmain, rfl, Nat.lt_of_not_le hlate⟩, ?_⟩
      exact obeys_query fun _ => ⟨hwho, rfl⟩

@[simp] theorem next_isMain (e : Event setup) : ((setupMonitor deadline).next v e).isMain = v.isMain := by
  obtain ⟨o, a⟩ := e
  cases o with
  | call c => cases c <;> cases a <;> rfl
  | timedOut | complete | hasTimer | awaitTimer | hasSocket | hasTransport => cases a <;> rfl
  | _ => rfl

theorem after_isMain (t : Trace setup) : ((setupMonitor deadline).after v t).isMain = v.isMain :=
  Monitor.after_same (f := SetupView.isMain) fun e _ _ => next_isMain e

/-- An event of the body before the lock. -/
def BeforeLock (e : Event setup) : Prop := match e.op with
  | .monotonic | .call _ | .startTimer _ | .isAuthenticated => True
  | _ => False

theorem emits_remainingSetupTime : Emits BeforeLock (Python.remainingSetupTime deadline) := by
  refine emits_bind (emits_query fun _ => trivial) fun now => ?_
  split
  · exact emits_done _
  · exact emits_pure _

theorem emits_call (c : SetupCall) : Emits BeforeLock (Python.call c) := by
  refine emits_bind (emits_query fun _ => trivial) fun raised => ?_
  cases raised with
  | none => exact emits_pure _
  | some exc => exact emits_done _

theorem emits_authenticate : Emits BeforeLock (Python.authenticate deadline) := by
  refine emits_bind emits_remainingSetupTime fun _ => emits_bind (emits_call _) fun _ => ?_
  refine emits_bind emits_remainingSetupTime fun _ => emits_bind (emits_call _) fun _ => ?_
  refine emits_bind emits_remainingSetupTime fun _ => emits_bind (emits_query fun _ => trivial) fun _ => ?_
  refine emits_bind (emits_call _) fun _ => emits_bind emits_remainingSetupTime fun _ => ?_
  refine emits_bind (emits_call _) fun _ => emits_bind (emits_call _) fun _ => ?_
  refine emits_bind emits_remainingSetupTime fun _ => emits_bind (emits_call _) fun _ => ?_
  refine emits_bind (emits_call _) fun _ => emits_bind (emits_query fun _ => trivial) fun authenticated => ?_
  cases authenticated <;> exact emits_done _

theorem beforeLock_holds {e : Event setup} (h : BeforeLock e) (v : SetupView) :
    ((setupMonitor deadline).next v e).holds = v.holds := by
  obtain ⟨o, a⟩ := e
  cases o with
  | call c => cases c <;> cases a <;> rfl
  | monotonic | startTimer | isAuthenticated => rfl
  | _ => exact h.elim

theorem obeys_establish : Obeys (setupMonitor deadline) { isMain := true } (Python.establish deadline) := by
  refine obeys_bind obeys_authenticate fun t _ hrun => ?_
  have hfree := Monitor.after_same (m := setupMonitor deadline) (f := SetupView.holds) (s := { isMain := true })
    fun e he => beforeLock_holds (emits_authenticate t _ hrun e he)
  refine obeys_bind (obeys_completeSetup (after_isMain t) hfree) fun t' _ _ => ?_
  have hmain : ((setupMonitor deadline).after ((setupMonitor deadline).after { isMain := true } t) t').isMain =
      true := by rw [after_isMain, after_isMain]
  refine obeys_query_bind fun _ => ⟨hmain, fun raised => ⟨trivial, ?_⟩⟩
  cases raised <;> exact obeys_done _

theorem obeys_cancelTimer (hmain : v.isMain = true) : Obeys (setupMonitor deadline) v Python.cancelTimer := by
  refine obeys_query_bind fun started => ⟨trivial, ?_⟩
  cases started with
  | true => exact obeys_query fun _ => hmain
  | false => exact obeys_done _

theorem obeys_closeConnection (hmain : v.isMain = true) :
    Obeys (setupMonitor deadline) v Python.closeConnection := by
  refine obeys_query_bind fun connected => ⟨trivial, ?_⟩
  cases connected with
  | true => exact obeys_query fun _ => ⟨hmain, rfl⟩
  | false =>
    refine obeys_query_bind fun opened => ⟨trivial, ?_⟩
    cases opened with
    | true => exact obeys_query fun _ => Or.inl hmain
    | false => exact obeys_done _

theorem obeys_abandonSetup (hmain : v.isMain = true) (seconds : String) (exc : PyException) :
    Obeys (setupMonitor deadline) v (Python.abandonSetup seconds deadline exc) := by
  refine obeys_bind (obeys_cancelTimer hmain) fun t _ _ => ?_
  refine obeys_bind (obeys_closeConnection ((after_isMain t).trans hmain)) fun _ _ _ => ?_
  refine obeys_query_bind fun expired => ⟨trivial, ?_⟩
  by_cases hexpired : expired = true ∨ exc.cls = .timeoutError
  · simp only [if_pos hexpired]
    exact obeys_done _
  · simp only [if_neg hexpired]
    refine obeys_query_bind fun now => ⟨trivial, ?_⟩
    by_cases hlate : deadline ≤ now
    · simp only [if_pos hlate]
      exact obeys_done _
    · simp only [if_neg hlate]
      exact obeys_done _

theorem obeys_start (seconds : String) :
    Obeys (setupMonitor deadline) { isMain := true } (Python.start seconds deadline) := by
  refine obeys_bind (obeys_attempt (obeys_bind (obeys_attempt obeys_establish) fun t outcome _ => ?_)) fun t _ _ =>
    obeys_bind (obeys_cancelTimer (after_isMain t)) fun _ _ _ => obeys_done _
  cases outcome with
  | ok _ => exact obeys_done _
  | error exc => exact obeys_abandonSetup (after_isMain t) seconds exc

/-- The timer thread touches the socket only as it holds the lock, after it has
found the setup not complete and has set the flag. -/
theorem obeys_expireSetup : Obeys (setupMonitor deadline) { isMain := false } Python.expireSetup := by
  have hwho : SetupParty.timer = .main ↔ false = true := by decide
  refine obeys_query_bind fun fires => ⟨rfl, ?_⟩
  cases fires with
  | false => exact obeys_done _
  | true =>
    refine obeys_query_bind fun _ => ⟨⟨hwho, rfl⟩, obeys_query_bind fun complete => ⟨trivial, ?_⟩⟩
    cases complete with
    | true => exact obeys_query fun _ => ⟨hwho, rfl⟩
    | false =>
      refine obeys_query_bind fun _ => ⟨⟨rfl, rfl, rfl⟩, obeys_query_bind fun opened => ⟨trivial, ?_⟩⟩
      cases opened with
      | true =>
        refine obeys_query_bind fun _ => ⟨Or.inr ⟨rfl, rfl⟩, obeys_query_bind fun _ => ⟨Or.inr ⟨rfl, rfl⟩, ?_⟩⟩
        exact obeys_query fun _ => ⟨hwho, rfl⟩
      | false => exact obeys_query fun _ => ⟨hwho, rfl⟩

end Obeying

/-! ### The invariant -/

/-- The state of a setup and what its two threads know; `m` is the main thread's
view and `w` the timer's. -/
structure SetupInv (deadline : ℕ) (s : SetupState) (m w : SetupView) : Prop where
  parties : m.isMain = true ∧ w.isMain = false
  lockMain : s.lock = some .main ↔ m.holds = true
  lockTimer : s.lock = some .timer ↔ w.holds = true
  /-- What a thread found under the lock stays so while it holds it. -/
  unexpired : m.unexpired = true → m.holds = true ∧ s.timedOut = false
  incomplete : w.incomplete = true → w.holds = true ∧ s.complete = false
  /-- The two never both happen. -/
  exclusive : s.complete = true → s.timedOut = false
  completed : m.completed = s.complete
  expired : w.expired = s.timedOut
  opened : s.socket = .connected → m.opened = true
  absent : s.socket = .absent → m.opened = false
  closed : s.socket = .closed → (m.closed = true ∨ m.hungUp = true) ∨ s.timedOut = true
  shut : m.closed = true → s.socket ≠ .connected
  transport : m.sawTransport = true → s.transport = true
  clientStarted : m.clientStarted = s.clientStarted
  hungUp : m.hungUp = true → s.transport = true ∧ (s.clientStarted = true → s.socket ≠ .connected)
  noSocket : m.sawNoSocket = true → m.opened = false
  timer : s.timer = .absent ↔ m.started = false
  noTimer : m.sawNoTimer = true → m.started = false
  cancelled : m.cancelled = true → ∀ due, s.timer ≠ .armed due
  looked : m.looked ≤ s.clock
  due : ∀ due, s.timer = .armed due → deadline ≤ due
  late : s.timer = .fired → deadline ≤ s.clock
  fired : w.fired = true → deadline ≤ s.clock
  timedOutLate : s.timedOut = true → deadline ≤ s.clock

section Invariant

variable {deadline : ℕ} {s s' : SetupState} {m w : SetupView}

/-- A later clock changes nothing. -/
theorem SetupInv.tick (h : SetupInv deadline s m w) (ticks : ℕ) :
    SetupInv deadline { s with clock := s.clock + ticks } m w :=
  { h with
    looked := Nat.le_add_right_of_le h.looked
    late := fun hs => Nat.le_add_right_of_le (h.late hs)
    fired := fun hw => Nat.le_add_right_of_le (h.fired hw)
    timedOutLate := fun hs => Nat.le_add_right_of_le (h.timedOutLate hs) }

/-- An event of the main thread. -/
theorem SetupInv.main (h : SetupInv deadline s m w) {e : Event setup} (hallows : m.allows deadline e.op)
    (hans : setupMachine.answer s e.op e.ans = some s') :
    SetupInv deadline s' ((setupMonitor deadline).next m e) w := by
  obtain ⟨o, a⟩ := e
  cases o with
  | monotonic =>
    simp only [setupMachine, Option.ite_none_right_eq_some, Option.some.injEq] at hans
    obtain ⟨rfl, rfl⟩ := hans
    exact { h with looked := Nat.le_refl _ }
  | call c =>
    cases c with
    | createConnection =>
      obtain ⟨-, hopened, hsaw, hclosed, hhung⟩ := hallows
      cases a with
      | none =>
        cases hans
        exact { h with
          opened := fun _ => rfl
          absent := nofun
          closed := nofun
          shut := fun hshut => absurd hshut (Bool.eq_false_iff.mp hclosed)
          hungUp := fun hm => absurd hm (Bool.eq_false_iff.mp hhung)
          noSocket := fun hnone => absurd hnone (Bool.eq_false_iff.mp hsaw) }
      | some exc =>
        cases hans
        exact h
    | newTransport =>
      cases a with
      | none =>
        cases hans
        exact { h with
          transport := fun _ => rfl
          hungUp := fun hm => ⟨rfl, (h.hungUp hm).2⟩ }
      | some exc =>
        cases hans
        exact h
    | startClient =>
      obtain ⟨-, hhung⟩ := hallows
      cases hans
      exact { h with
        clientStarted := rfl
        hungUp := fun hm => absurd hm (Bool.eq_false_iff.mp hhung) }
    | _ =>
      cases hans
      exact h
  | startTimer interval =>
    obtain ⟨-, hstarted, hsaw, hcancelled, hinterval⟩ := hallows
    cases hans
    have hlooked := h.looked
    exact { h with
      timer := ⟨nofun, nofun⟩
      noTimer := fun hnone => absurd hnone (Bool.eq_false_iff.mp hsaw)
      cancelled := fun hdone => absurd hdone (Bool.eq_false_iff.mp hcancelled)
      due := fun due hdue => by
        cases hdue
        omega
      late := nofun }
  | isAuthenticated =>
    cases hans
    exact h
  | acquire who =>
    obtain ⟨hwho, hfree⟩ := hallows
    obtain rfl := hwho.mpr h.parties.1
    simp only [setupMachine, Option.ite_none_right_eq_some, Option.some.injEq] at hans
    obtain ⟨hlock, rfl⟩ := hans
    have hother : ¬ w.holds = true := fun hw => by
      have := h.lockTimer.mpr hw
      rw [hlock] at this
      cases this
    exact { h with
      lockMain := ⟨fun _ => rfl, fun _ => rfl⟩
      lockTimer := ⟨nofun, fun hw => absurd hw hother⟩
      unexpired := fun hun => ⟨rfl, (h.unexpired hun).2⟩ }
  | release who =>
    obtain ⟨hwho, hholds⟩ := hallows
    obtain rfl := hwho.mpr h.parties.1
    simp only [setupMachine, Option.ite_none_right_eq_some, Option.some.injEq] at hans
    obtain ⟨hlock, rfl⟩ := hans
    have hother : ¬ w.holds = true := fun hw => by
      have := h.lockTimer.mpr hw
      rw [hlock] at this
      cases this
    exact { h with
      lockMain := ⟨nofun, nofun⟩
      lockTimer := ⟨nofun, fun hw => absurd hw hother⟩
      unexpired := nofun }
  | timedOut =>
    simp only [setupMachine, Option.ite_none_right_eq_some, Option.some.injEq] at hans
    obtain ⟨ha, rfl⟩ := hans
    cases a with
    | true => exact h
    | false => exact { h with unexpired := fun hholds => ⟨hholds, ha.symm⟩ }
  | setTimedOut => exact absurd (h.parties.1.symm.trans hallows.1) (by decide)
  | complete =>
    simp only [setupMachine, Option.ite_none_right_eq_some, Option.some.injEq] at hans
    obtain ⟨-, rfl⟩ := hans
    cases a <;> exact { h with }
  | setComplete =>
    obtain ⟨-, hunexpired, -⟩ := hallows
    obtain ⟨hholds, hnot⟩ := h.unexpired hunexpired
    cases hans
    exact { h with
      incomplete := fun hw => by
        have htimer := h.lockTimer.mpr (h.incomplete hw).1
        rw [h.lockMain.mpr hholds] at htimer
        cases htimer
      exclusive := fun _ => hnot
      completed := rfl }
  | hasTimer =>
    simp only [setupMachine, Option.ite_none_right_eq_some, Option.some.injEq] at hans
    obtain ⟨ha, rfl⟩ := hans
    cases a with
    | true => exact h
    | false =>
      have habsent : s.timer = .absent := by simpa using ha
      exact { h with noTimer := fun _ => h.timer.mp habsent }
  | cancelTimer =>
    cases htimer : s.timer with
    | armed due =>
      simp only [setupMachine, htimer, Option.some.injEq] at hans
      subst hans
      exact { h with
        timer := ⟨nofun, fun hm => absurd (htimer.symm.trans (h.timer.mpr hm)) (by simp)⟩
        cancelled := fun _ _ => nofun
        due := nofun
        late := nofun }
    | _ =>
      simp only [setupMachine, htimer, Option.some.injEq] at hans
      subst hans
      exact { h with
        cancelled := fun _ due hdue => by
          rw [htimer] at hdue
          cases hdue }
  | awaitTimer => exact absurd (h.parties.1.symm.trans hallows) (by decide)
  | hasTransport =>
    simp only [setupMachine, Option.ite_none_right_eq_some, Option.some.injEq] at hans
    obtain ⟨ha, rfl⟩ := hans
    cases a with
    | true => exact { h with transport := fun _ => ha.symm }
    | false => exact h
  | hasSocket =>
    simp only [setupMachine, Option.ite_none_right_eq_some, Option.some.injEq] at hans
    obtain ⟨ha, rfl⟩ := hans
    cases a with
    | true => exact h
    | false =>
      have habsent : s.socket = .absent := by simpa using ha
      exact { h with noSocket := fun _ => h.absent habsent }
  | closeTransport =>
    have htransport := h.transport hallows.2
    change some (if s.clientStarted = true then { s with socket := .closed } else s) = some s' at hans
    by_cases hstarted : s.clientStarted = true
    · rw [if_pos hstarted] at hans
      cases hans
      exact { h with
        opened := nofun
        absent := nofun
        closed := fun _ => Or.inl (Or.inr rfl)
        shut := fun _ => nofun
        hungUp := fun _ => ⟨htransport, fun _ => nofun⟩ }
    · rw [if_neg hstarted] at hans
      cases hans
      exact { h with
        closed := fun hs => (h.closed hs).imp_left fun _ => Or.inr rfl
        hungUp := fun _ => ⟨htransport, fun hs => absurd hs hstarted⟩ }
  | shutdownSocket | closeSocket =>
    cases hans
    exact { h with
      opened := nofun
      absent := nofun
      closed := fun _ => Or.inl (Or.inl rfl)
      shut := fun _ => nofun
      hungUp := fun hm => ⟨(h.hungUp hm).1, fun _ => nofun⟩ }

/-- An event of the timer thread. -/
theorem SetupInv.timerEvent (h : SetupInv deadline s m w) {e : Event setup} (hallows : w.allows deadline e.op)
    (hans : setupMachine.answer s e.op e.ans = some s') :
    SetupInv deadline s' m ((setupMonitor deadline).next w e) := by
  obtain ⟨o, a⟩ := e
  have hnotMain : ¬ w.isMain = true := fun hw => absurd (h.parties.2.symm.trans hw) (by decide)
  cases o with
  | monotonic =>
    simp only [setupMachine, Option.ite_none_right_eq_some, Option.some.injEq] at hans
    obtain ⟨rfl, rfl⟩ := hans
    exact { h with }
  | call c =>
    cases c with
    | createConnection => exact absurd hallows.1 hnotMain
    | newTransport =>
      cases a with
      | none =>
        cases hans
        exact { h with
          transport := fun _ => rfl
          hungUp := fun hm => ⟨rfl, (h.hungUp hm).2⟩ }
      | some exc =>
        cases hans
        exact h
    | startClient => exact absurd hallows.1 hnotMain
    | _ =>
      cases hans
      exact h
  | startTimer interval => exact absurd hallows.1 hnotMain
  | isAuthenticated =>
    cases hans
    exact h
  | acquire who =>
    obtain ⟨hwho, hfree⟩ := hallows
    simp only [setupMachine, Option.ite_none_right_eq_some, Option.some.injEq] at hans
    obtain ⟨hlock, rfl⟩ := hans
    cases who with
    | main => exact absurd (hwho.mp rfl) hnotMain
    | timer =>
      exact { h with
        lockMain := ⟨nofun, fun hm => absurd (hlock.symm.trans (h.lockMain.mpr hm)) (by decide)⟩
        lockTimer := ⟨fun _ => rfl, fun _ => rfl⟩
        incomplete := fun hw => ⟨rfl, (h.incomplete hw).2⟩ }
  | release who =>
    obtain ⟨hwho, hholds⟩ := hallows
    simp only [setupMachine, Option.ite_none_right_eq_some, Option.some.injEq] at hans
    obtain ⟨hlock, rfl⟩ := hans
    cases who with
    | main => exact absurd (hwho.mp rfl) hnotMain
    | timer =>
      exact { h with
        lockMain := ⟨nofun, fun hm => absurd (hlock.symm.trans (h.lockMain.mpr hm)) (by decide)⟩
        lockTimer := ⟨nofun, nofun⟩
        incomplete := nofun }
  | timedOut =>
    simp only [setupMachine, Option.ite_none_right_eq_some, Option.some.injEq] at hans
    obtain ⟨-, rfl⟩ := hans
    cases a <;> exact { h with }
  | setTimedOut =>
    obtain ⟨-, hincomplete, hfired⟩ := hallows
    obtain ⟨hholds, hnot⟩ := h.incomplete hincomplete
    cases hans
    exact { h with
      unexpired := fun hm => by
        have hmain := h.lockMain.mpr (h.unexpired hm).1
        rw [h.lockTimer.mpr hholds] at hmain
        cases hmain
      exclusive := fun hdone => absurd (hnot.symm.trans hdone) (by decide)
      expired := rfl
      closed := fun _ => Or.inr rfl
      timedOutLate := fun _ => h.fired hfired }
  | complete =>
    simp only [setupMachine, Option.ite_none_right_eq_some, Option.some.injEq] at hans
    obtain ⟨ha, rfl⟩ := hans
    cases a with
    | true => exact h
    | false => exact { h with incomplete := fun hholds => ⟨hholds, ha.symm⟩ }
  | setComplete => exact absurd hallows.1 hnotMain
  | hasTimer =>
    simp only [setupMachine, Option.ite_none_right_eq_some, Option.some.injEq] at hans
    obtain ⟨-, rfl⟩ := hans
    cases a <;> exact { h with }
  | cancelTimer => exact absurd hallows hnotMain
  | awaitTimer =>
    cases htimer : s.timer with
    | armed due =>
      cases a with
      | false => simp [setupMachine, htimer] at hans
      | true =>
        simp only [setupMachine, htimer, Option.ite_none_right_eq_some, Option.some.injEq] at hans
        obtain ⟨hdue, rfl⟩ := hans
        have hlate : deadline ≤ s.clock := (h.due due htimer).trans hdue
        exact { h with
          timer := ⟨nofun, fun hm => absurd (htimer.symm.trans (h.timer.mpr hm)) (by simp)⟩
          cancelled := fun _ _ => nofun
          due := nofun
          late := fun _ => hlate
          fired := fun _ => hlate }
    | cancelled =>
      cases a with
      | true => simp [setupMachine, htimer] at hans
      | false =>
        simp only [setupMachine, htimer, Option.some.injEq] at hans
        subst hans
        exact h
    | _ => cases a <;> simp [setupMachine, htimer] at hans
  | hasTransport =>
    simp only [setupMachine, Option.ite_none_right_eq_some, Option.some.injEq] at hans
    obtain ⟨-, rfl⟩ := hans
    cases a <;> exact { h with }
  | hasSocket =>
    simp only [setupMachine, Option.ite_none_right_eq_some, Option.some.injEq] at hans
    obtain ⟨-, rfl⟩ := hans
    cases a <;> exact { h with }
  | closeTransport => exact absurd hallows.1 hnotMain
  | shutdownSocket | closeSocket =>
    rcases hallows with hmain | ⟨-, hexpired⟩
    · exact absurd hmain hnotMain
    · cases hans
      exact { h with
        opened := nofun
        absent := nofun
        closed := fun _ => Or.inr (h.expired.symm.trans hexpired)
        shut := fun _ => nofun
        hungUp := fun hm => ⟨(h.hungUp hm).1, fun _ => nofun⟩ }

end Invariant

/-! ### How a setup ends -/

/-- What a view records once and for all. -/
inductive SetupFlag
  | opened
  | cancelled
  | completed
  | closed
  | hungUp
  | noSocket
  | noTimer

def SetupView.flag (v : SetupView) : SetupFlag → Bool
  | .opened => v.opened
  | .cancelled => v.cancelled
  | .completed => v.completed
  | .closed => v.closed
  | .hungUp => v.hungUp
  | .noSocket => v.sawNoSocket
  | .noTimer => v.sawNoTimer

/-- The events that set it. -/
def SetupFlag.marks : SetupFlag → Event setup → Bool
  | .opened, ⟨.call .createConnection, none⟩ => true
  | .cancelled, ⟨.cancelTimer, _⟩ => true
  | .completed, ⟨.setComplete, _⟩ => true
  | .closed, ⟨.shutdownSocket, _⟩ | .closed, ⟨.closeSocket, _⟩ => true
  | .hungUp, ⟨.closeTransport, _⟩ => true
  | .noSocket, ⟨.hasSocket, false⟩ => true
  | .noTimer, ⟨.hasTimer, false⟩ => true
  | _, _ => false

section Ends

variable {seconds : String} {deadline : ℕ} {t : Trace setup} {F : SetupFlag}

/-- An event that does not mark `F` leaves it, one that marks it sets it. -/
theorem next_flag (F : SetupFlag) (v : SetupView) (e : Event setup) :
    ((setupMonitor deadline).next v e).flag F = (v.flag F || F.marks e) := by
  obtain ⟨o, a⟩ := e
  cases o with
  | call c =>
    cases c <;> cases a <;> cases F <;> first
      | exact (Bool.or_false _).symm
      | exact (Bool.or_true _).symm
  | timedOut | complete | hasTimer | awaitTimer | hasSocket | hasTransport =>
    cases a <;> cases F <;> first
      | exact (Bool.or_false _).symm
      | exact (Bool.or_true _).symm
  | _ =>
    cases F <;> first
      | exact (Bool.or_false _).symm
      | exact (Bool.or_true _).symm

theorem after_flag (F : SetupFlag) (v : SetupView) (t : Trace setup) :
    ((setupMonitor deadline).after v t).flag F = (v.flag F || t.any F.marks) :=
  Monitor.after_flag (f := fun v : SetupView => v.flag F) (next_flag F) v t

theorem call_ok {c : SetupCall} {u : Unit} (h : Runs (Python.call c) t (.ok u)) : t = [⟨.call c, none⟩] := by
  obtain ⟨raised, t', rfl, hrest⟩ := h
  cases raised with
  | none => rw [hrest.1]
  | some exc => cases hrest.2

theorem authenticate_ok {u : Unit} (h : Runs (Python.authenticate deadline) t (.ok u)) :
    t.any SetupFlag.opened.marks = true := by
  obtain ⟨_, t₁, t₂, rfl, -, hrest⟩ := runs_bind_ok.mp h
  obtain ⟨_, t₃, t₄, rfl, hcreate, -⟩ := runs_bind_ok.mp hrest
  rw [call_ok hcreate]
  simp [SetupFlag.marks]

/-- The lock is left with the setup complete, by the last look at the clock. -/
theorem completeSetup_ok {u : Unit} (h : Runs (Python.completeSetup deadline) t (.ok u)) :
    ∃ now < deadline, t = [⟨.acquire .main, ()⟩, ⟨.timedOut, false⟩, ⟨.monotonic, now⟩, ⟨.setComplete, ()⟩,
      ⟨.release .main, ()⟩] := by
  obtain ⟨_, t₁, rfl, expired, t₂, rfl, h⟩ := h
  cases expired with
  | true =>
    obtain ⟨_, t₃, rfl, h⟩ := h
    cases h.2
  | false =>
    obtain ⟨now, t₃, rfl, h⟩ := h
    by_cases hlate : deadline ≤ now
    · simp only [Prog.bind, if_pos hlate] at h
      obtain ⟨_, t₄, rfl, h⟩ := h
      cases h.2
    · simp only [Prog.bind, if_neg hlate] at h
      obtain ⟨_, t₄, rfl, _, t₅, rfl, rfl, -⟩ := h
      exact ⟨now, Nat.lt_of_not_le hlate, rfl⟩

/-- A setup that came to its end opened a socket and closed nothing, and was
declared complete before the deadline, by its last look at the clock. -/
theorem establish_ok {u : Unit} (h : Runs (Python.establish deadline) t (.ok u)) :
    ∃ t₁ t₂ now, t = t₁ ++ ⟨.monotonic, now⟩ :: t₂ ∧ now < deadline ∧ t₁.any SetupFlag.opened.marks = true ∧
      t₁.any SetupFlag.closed.marks = false ∧ t₁.any SetupFlag.hungUp.marks = false ∧
      t₂ = [⟨.setComplete, ()⟩, ⟨.release .main, ()⟩, ⟨.cancelTimer, ()⟩, ⟨.call .setTimeout, none⟩] := by
  obtain ⟨_, t₁, t₂, rfl, hauth, hrest⟩ := runs_bind_ok.mp h
  obtain ⟨_, t₃, t₄, rfl, hcomplete, _, t₅, rfl, hcall⟩ := runs_bind_ok.mp hrest
  obtain ⟨now, hnow, rfl⟩ := completeSetup_ok hcomplete
  -- before the lock nothing is closed
  have hquiet : ∀ e ∈ t₁, ¬ SetupFlag.closed.marks e = true ∧ ¬ SetupFlag.hungUp.marks e = true := by
    intro e he
    have hbefore := emits_authenticate t₁ _ hauth e he
    obtain ⟨o, a⟩ := e
    cases o with
    | closeTransport | shutdownSocket | closeSocket => exact hbefore.elim
    | call c => cases c <;> cases a <;> simp [SetupFlag.marks]
    | _ => simp [SetupFlag.marks]
  refine ⟨t₁ ++ [⟨.acquire .main, ()⟩, ⟨.timedOut, false⟩], _, now, ?_, hnow, ?_, ?_, ?_, rfl⟩
  · rw [call_ok hcall]
    simp
  · rw [List.any_append, authenticate_ok hauth, Bool.true_or]
  · rw [List.any_append, Bool.or_eq_false_iff]
    exact ⟨List.any_eq_false.mpr fun e he => (hquiet e he).1, rfl⟩
  · rw [List.any_append, Bool.or_eq_false_iff]
    exact ⟨List.any_eq_false.mpr fun e he => (hquiet e he).2, rfl⟩

/-- After it no timer is armed: it is cancelled, or there is none. -/
theorem cancelTimer_marks {r : Except PyException Unit} (h : Runs Python.cancelTimer t r) :
    r = .ok () ∧ (t.any SetupFlag.cancelled.marks = true ∨ t.any SetupFlag.noTimer.marks = true) ∧
      t.any SetupFlag.closed.marks = false ∧ t.any SetupFlag.hungUp.marks = false := by
  obtain ⟨started, t₁, rfl, h⟩ := h
  cases started with
  | true =>
    obtain ⟨_, t₂, rfl, rfl, rfl⟩ := h
    exact ⟨rfl, Or.inl rfl, rfl, rfl⟩
  | false =>
    obtain ⟨rfl, rfl⟩ := h
    exact ⟨rfl, Or.inr rfl, rfl, rfl⟩

theorem cancelTimer_looked {r : Except PyException Unit} (h : Runs Python.cancelTimer t r) (v : SetupView) :
    ((setupMonitor deadline).after v t).looked = v.looked := by
  obtain ⟨started, t₁, rfl, h⟩ := h
  cases started with
  | true =>
    obtain ⟨_, t₂, rfl, rfl, -⟩ := h
    rfl
  | false =>
    obtain ⟨rfl, -⟩ := h
    rfl

/-- The flags of a connection that was given up. -/
def givenUp (flag : SetupFlag → Bool) : Prop :=
  flag .closed = true ∨ flag .hungUp = true ∨ flag .noSocket = true

/-- After it the transport is closed, or the socket, or there is none. -/
theorem closeConnection_marks {r : Except PyException Unit} (h : Runs Python.closeConnection t r) :
    r = .ok () ∧ givenUp fun F => t.any F.marks := by
  obtain ⟨connected, t₁, rfl, h⟩ := h
  cases connected with
  | true =>
    obtain ⟨_, t₂, rfl, rfl, rfl⟩ := h
    exact ⟨rfl, Or.inr (Or.inl rfl)⟩
  | false =>
    obtain ⟨opened, t₂, rfl, h⟩ := h
    cases opened with
    | true =>
      obtain ⟨_, t₃, rfl, rfl, rfl⟩ := h
      exact ⟨rfl, Or.inl rfl⟩
    | false =>
      obtain ⟨rfl, rfl⟩ := h
      exact ⟨rfl, Or.inr (Or.inr rfl)⟩

/-- The handler raises, with the connection given up; what is no timeout it
raises only after a look at the clock before the deadline. -/
theorem abandonSetup_ends {exc : PyException} {r : Except PyException Unit}
    (h : Runs (Python.abandonSetup seconds deadline exc) t r) :
    (givenUp fun F => t.any F.marks) ∧
      ∃ e, r = .error e ∧ (e = Python.setupTimedOut seconds ∨
        ∀ v : SetupView, ((setupMonitor deadline).after v t).looked < deadline) := by
  rcases runs_bind.mp h with ⟨e, hcancel, -⟩ | ⟨_, t₁, t₂, rfl, -, hrest⟩
  · cases (cancelTimer_marks hcancel).1
  · rcases runs_bind.mp hrest with ⟨e, hclose, -⟩ | ⟨_, t₃, t₄, rfl, hclose, expired, t₅, rfl, hlook⟩
    · cases (closeConnection_marks hclose).1
    · have hclosed : ∀ rest : Trace setup, givenUp fun F => (t₁ ++ (t₃ ++ rest)).any F.marks := fun rest => by
        have hgiven := (closeConnection_marks hclose).2
        unfold givenUp at hgiven ⊢
        rcases hgiven with hmark | hmark | hmark <;> simp [List.any_append, hmark]
      refine ⟨hclosed _, ?_⟩
      by_cases hexpired : expired = true ∨ exc.cls = .timeoutError
      · simp only [Prog.bind, if_pos hexpired] at hlook
        exact ⟨_, hlook.2, Or.inl rfl⟩
      · simp only [Prog.bind, if_neg hexpired] at hlook
        obtain ⟨now, t₆, rfl, hlast⟩ := hlook
        by_cases hlate : deadline ≤ now
        · simp only [Prog.bind, if_pos hlate] at hlast
          exact ⟨_, hlast.2, Or.inl rfl⟩
        · simp only [Prog.bind, if_neg hlate] at hlast
          obtain ⟨rfl, hr⟩ := hlast
          refine ⟨_, hr, Or.inr fun v => ?_⟩
          have hsplit : t₁ ++ (t₃ ++ [⟨.timedOut, expired⟩, ⟨.monotonic, now⟩]) =
              (t₁ ++ t₃ ++ [⟨.timedOut, expired⟩]) ++ [⟨.monotonic, now⟩] := by simp
          rw [hsplit, Monitor.after_snoc]
          exact Nat.lt_of_not_le hlate

/-- How the main thread ends: with the setup complete and nothing closed, or
with the connection given up; and no timer armed. -/
inductive SetupEnd (seconds : String) (deadline : ℕ) (v : SetupView) : Except PyException Unit → Prop
  | complete (hopened : v.opened = true) (hcompleted : v.completed = true) (hclosed : v.closed = false)
      (hhung : v.hungUp = false) (hlooked : v.looked < deadline) : SetupEnd seconds deadline v (.ok ())
  | failed (e : PyException) (hgiven : givenUp v.flag)
      (hcause : e = Python.setupTimedOut seconds ∨ v.looked < deadline) : SetupEnd seconds deadline v (.error e)

theorem start_ends {r : Except PyException Unit} (h : Runs (Python.start seconds deadline) t r) :
    SetupEnd seconds deadline ((setupMonitor deadline).after { isMain := true } t) r ∧
      (((setupMonitor deadline).after { isMain := true } t).cancelled = true ∨
        ((setupMonitor deadline).after { isMain := true } t).sawNoTimer = true) := by
  have hflag : ∀ (F : SetupFlag) (t : Trace setup),
      ((setupMonitor deadline).after { isMain := true } t).flag F = t.any F.marks := fun F t => by
    rw [after_flag]
    cases F <;> rfl
  obtain ⟨r', t₁, t₂, rfl, hbody, hlast⟩ := runs_finallyDo.mp h
  rcases hlast with ⟨e, hcancel, -⟩ | ⟨hcancel, rfl⟩
  · cases (cancelTimer_marks hcancel).1
  obtain ⟨-, hdisarmed, hquiet, hstill⟩ := cancelTimer_marks hcancel
  have hlooked : ((setupMonitor deadline).after { isMain := true } (t₁ ++ t₂)).looked =
      ((setupMonitor deadline).after { isMain := true } t₁).looked := by
    rw [Monitor.after_append]
    exact cancelTimer_looked hcancel _
  refine ⟨?_, ?_⟩
  · rcases runs_bind.mp hbody with ⟨e, hattempt, -⟩ | ⟨outcome, t₃, t₄, rfl, hattempt, hrest⟩
    · obtain ⟨_, -, hok⟩ := runs_attempt.mp hattempt
      cases hok
    · obtain ⟨_, hestablish, hok⟩ := runs_attempt.mp hattempt
      cases hok
      cases outcome with
      | ok u =>
        obtain ⟨rfl, rfl⟩ := hrest
        obtain ⟨t₅, t₆, now, rfl, hnow, hopened, hclosed, hhung, rfl⟩ := establish_ok hestablish
        refine .complete ((hflag .opened _).trans ?_) ((hflag .completed _).trans ?_)
          ((hflag .closed _).trans ?_) ((hflag .hungUp _).trans ?_) ?_
        · simp [List.any_append, hopened]
        · simp [List.any_append, SetupFlag.marks]
        · simp [List.any_append, SetupFlag.marks, hclosed, hquiet]
        · simp [List.any_append, SetupFlag.marks, hhung, hstill]
        · rw [hlooked, List.append_nil, Monitor.after_append]
          exact hnow
      | error exc =>
        obtain ⟨hclosed, e, rfl, hcause⟩ := abandonSetup_ends hrest
        refine .failed e ?_ (hcause.imp_right fun hlook => ?_)
        · simp only [givenUp, hflag]
          unfold givenUp at hclosed
          rcases hclosed with hmark | hmark | hmark <;> simp [List.any_append, hmark]
        · rw [hlooked, Monitor.after_append]
          exact hlook _
  · exact hdisarmed.imp (fun hmark => (hflag .cancelled _).trans (by simp [List.any_append, hmark]))
      (fun hmark => (hflag .noTimer _).trans (by simp [List.any_append, hmark]))

end Ends

/-! ### Every interleaving -/

section Interleavings

variable {seconds : String} {now deadline : ℕ} {ms : List (Move setup ℕ)}
  {pool : Pool setup PyException Unit SetupState}

/-- The main thread is thread 0. -/
def firstView (i : ℕ) : SetupView := { isMain := i = 0 }

theorem obeys_setupPool : ∀ i p, (setupPool seconds now deadline).threads[i]? = some p →
    Obeys (setupMonitor deadline) (firstView i) p
  | 0, _, hp => by
    cases hp
    exact obeys_start seconds
  | 1, _, hp => by
    cases hp
    exact obeys_expireSetup
  | _ + 2, _, hp => by cases hp

theorem setupInv_run (hrun : Pool.run setupMachine (fun _ _ _ => true) (setupPool seconds now deadline) ms = some pool) :
    SetupInv deadline pool.shared (views (setupMonitor deadline) firstView ms 0)
      (views (setupMonitor deadline) firstView ms 1) := by
  have hstart : SetupInv deadline { clock := now } (firstView 0) (firstView 1) := by
    constructor <;> simp [firstView]
  refine Pool.run_views (fun s v => SetupInv deadline s (v 0) (v 1)) obeys_setupPool hstart ?_ ?_ hrun
  · intro s v ticks s' h hs
    cases hs
    exact h.tick ticks
  · intro s v i e s' hi h hallows hans
    match i with
    | 0 => exact h.main hallows hans
    | 1 => exact h.timerEvent hallows hans
    | i + 2 =>
      have : i + 2 < 2 := hi
      omega

/-- The last look of the main thread at the clock. -/
def lastLook (deadline : ℕ) (ms : List (Move setup ℕ)) : ℕ :=
  (views (setupMonitor deadline) firstView ms 0).looked

/-- **Setup and deadline never both happen.** In every order of steps of the two
threads: the timer strikes only at the deadline and never after the setup is
complete; a setup that ended has left no timer armed; one that succeeded has an
open socket, which neither thread closes any more, and was within its time at
its last look at the clock; one that failed has no open socket unless it made
the transport and did not come to `start_client`, and says that it timed out
unless it found itself within its time. -/
theorem setup_atDeadline (hrun : Pool.run setupMachine (fun _ _ _ => true) (setupPool seconds now deadline) ms = some pool) :
    (pool.shared.timedOut = true → deadline ≤ pool.shared.clock ∧ pool.shared.complete = false) ∧
      (pool.threads[0]? = some (done (.ok ())) →
        pool.shared.socket = .connected ∧ pool.shared.complete = true ∧ lastLook deadline ms < deadline ∧
          ∀ due, pool.shared.timer ≠ .armed due) ∧
      ∀ e, pool.threads[0]? = some (done (.error e)) →
        (pool.shared.socket = .connected → pool.shared.transport = true ∧ pool.shared.clientStarted = false) ∧
          (e = Python.setupTimedOut seconds ∨ lastLook deadline ms < deadline) ∧
            ∀ due, pool.shared.timer ≠ .armed due := by
  have hinv := setupInv_run hrun
  have hends : ∀ r, pool.threads[0]? = some (done r) →
      SetupEnd seconds deadline (views (setupMonitor deadline) firstView ms 0) r ∧
        ∀ due, pool.shared.timer ≠ .armed due := by
    intro r hdone
    obtain ⟨p, hp, hleads⟩ := Pool.run_leads (i := 0) rfl hrun
    rw [hdone] at hp
    cases Option.some.inj hp
    obtain ⟨hend, hdisarmed⟩ := start_ends hleads.runs
    refine ⟨hend, fun due hdue => ?_⟩
    rcases hdisarmed with hcancelled | hnone
    · exact hinv.cancelled hcancelled due hdue
    · have habsent := hinv.timer.mpr (hinv.noTimer hnone)
      rw [hdue] at habsent
      cases habsent
  refine ⟨fun htimedOut => ⟨hinv.timedOutLate htimedOut, ?_⟩, fun hdone => ?_, fun e hdone => ?_⟩
  · refine Bool.eq_false_iff.mpr fun hcomplete => ?_
    have := hinv.exclusive hcomplete
    rw [htimedOut] at this
    cases this
  · obtain ⟨hend, hdisarmed⟩ := hends _ hdone
    cases hend with
    | complete hopened hcompleted hclosed hhung hlooked =>
      have hcomplete : pool.shared.complete = true := hinv.completed.symm.trans hcompleted
      refine ⟨?_, hcomplete, hlooked, hdisarmed⟩
      cases hsocket : pool.shared.socket with
      | connected => rfl
      | absent => exact absurd (hinv.absent hsocket) (by simp [hopened])
      | closed =>
        rcases hinv.closed hsocket with (hmain | hmain) | htimer
        · exact absurd hmain (by simp [hclosed])
        · exact absurd hmain (by simp [hhung])
        · exact absurd htimer (by simp [hinv.exclusive hcomplete])
  · obtain ⟨hend, hdisarmed⟩ := hends _ hdone
    cases hend with
    | failed _ hgiven hcause =>
      refine ⟨fun hsocket => ?_, hcause, hdisarmed⟩
      rcases hgiven with hclosed | hhung | hnone
      · exact absurd hsocket (hinv.shut hclosed)
      · obtain ⟨htransport, hopen⟩ := hinv.hungUp hhung
        exact ⟨htransport, Bool.eq_false_iff.mpr fun hstarted => hopen hstarted hsocket⟩
      · exact absurd (hinv.opened hsocket) (by simp [hinv.noSocket hnone])

end Interleavings

namespace Demo

/-- The signer accepts the key as the timer strikes. -/
def lastMoment : List (Move setup ℕ) :=
  [.thread 0 ⟨.monotonic, 0⟩, .thread 0 ⟨.call .createConnection, none⟩, .thread 0 ⟨.monotonic, 0⟩,
    .thread 0 ⟨.call .setTimeout, none⟩, .thread 0 ⟨.monotonic, 0⟩, .thread 0 ⟨.startTimer 60, ()⟩,
    .thread 0 ⟨.call .newTransport, none⟩, .thread 0 ⟨.monotonic, 0⟩, .thread 0 ⟨.call .startClient, none⟩,
    .thread 0 ⟨.call .verifyHostKey, none⟩, .thread 0 ⟨.monotonic, 0⟩, .thread 0 ⟨.call .setTimeout, none⟩, .drift 60,
    .thread 1 ⟨.awaitTimer, true⟩, .thread 0 ⟨.call .authPublickey, none⟩, .thread 1 ⟨.acquire .timer, ()⟩,
    .thread 0 ⟨.isAuthenticated, true⟩, .thread 1 ⟨.complete, false⟩, .thread 1 ⟨.setTimedOut, ()⟩,
    .thread 1 ⟨.hasSocket, true⟩, .thread 1 ⟨.shutdownSocket, ()⟩, .thread 1 ⟨.closeSocket, ()⟩,
    .thread 1 ⟨.release .timer, ()⟩, .thread 0 ⟨.acquire .main, ()⟩, .thread 0 ⟨.timedOut, true⟩,
    .thread 0 ⟨.release .main, ()⟩, .thread 0 ⟨.hasTimer, true⟩, .thread 0 ⟨.cancelTimer, ()⟩,
    .thread 0 ⟨.hasTransport, true⟩, .thread 0 ⟨.closeTransport, ()⟩, .thread 0 ⟨.timedOut, true⟩,
    .thread 0 ⟨.hasTimer, true⟩, .thread 0 ⟨.cancelTimer, ()⟩]

/-- The clock passes the deadline before `start_client`, and the timer is
cancelled before it strikes. -/
def leftOpen : List (Move setup ℕ) :=
  [.thread 0 ⟨.monotonic, 0⟩, .thread 0 ⟨.call .createConnection, none⟩, .thread 0 ⟨.monotonic, 0⟩,
    .thread 0 ⟨.call .setTimeout, none⟩, .thread 0 ⟨.monotonic, 0⟩, .thread 0 ⟨.startTimer 60, ()⟩,
    .thread 0 ⟨.call .newTransport, none⟩, .drift 60, .thread 0 ⟨.monotonic, 60⟩, .thread 0 ⟨.hasTimer, true⟩,
    .thread 0 ⟨.cancelTimer, ()⟩, .thread 0 ⟨.hasTransport, true⟩, .thread 0 ⟨.closeTransport, ()⟩,
    .thread 0 ⟨.timedOut, false⟩, .thread 0 ⟨.hasTimer, true⟩, .thread 0 ⟨.cancelTimer, ()⟩]

example : ∃ pool, Pool.run setupMachine (fun _ _ _ => true) (setupPool "60" 0 60) leftOpen = some pool ∧
    pool.threads[0]? = some (done (.error (Python.setupTimedOut "60"))) ∧ pool.shared.socket = .connected :=
  ⟨_, rfl, rfl, rfl⟩

theorem setup_atDeadline_lost : ∃ pool,
    Pool.run setupMachine (fun _ _ _ => true) (setupPool "60" 0 60) lastMoment = some pool ∧
      pool.threads[0]? = some (done (.error (Python.setupTimedOut "60"))) ∧
        60 ≤ pool.shared.clock ∧ pool.shared.complete = false ∧ pool.shared.socket ≠ .connected := by
  obtain ⟨pool, hrun, hdone, hexpired, hstarted⟩ : ∃ pool,
      Pool.run setupMachine (fun _ _ _ => true) (setupPool "60" 0 60) lastMoment = some pool ∧
        pool.threads[0]? = some (done (.error (Python.setupTimedOut "60"))) ∧ pool.shared.timedOut = true ∧
          pool.shared.clientStarted = true :=
    ⟨_, rfl, rfl, rfl, rfl⟩
  obtain ⟨hlate, -, hfailed⟩ := setup_atDeadline hrun
  refine ⟨pool, hrun, hdone, (hlate hexpired).1, (hlate hexpired).2, fun hsocket => ?_⟩
  have hnot := ((hfailed _ hdone).1 hsocket).2
  rw [hstarted] at hnot
  cases hnot

end Demo

end AplaneSdk
