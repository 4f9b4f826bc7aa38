/-
# The session of an enrollment

A client logs in under the name "enroll", runs one command, and reads what the
signer answers. Go and Python do so step by step; in TypeScript it is one
promise, settled by callbacks of the SSH client, the channel and the caller's
signal.

An answer is believed only from a command that ended with status 0, over a
connection whose host key was accepted, and only about this client's own key;
the command is run at most once, and a client that connected is closed, however
the session ends.

Key definitions: `Go.requestEnrollment`, `Python.requestEnrollment`,
`TypeScript.Enrolling`, `TypeScript.enrollStep`, `TypeScript.EnrollInv`.
Key theorems: `enrollment_session`, `TypeScript.EnrollInv.step`,
`TypeScript.enrollment_settles`.
-/
import AplaneSdk.Enrollment
import AplaneSdk.Tunnel

namespace AplaneSdk

open Interaction Interaction.Prog

/-! ### The command, and what is said of a refusal -/

def enrollmentCommand (label : String) : String := if label = "" then "enroll" else s!"enroll {label}"

/-- Without an "ERROR: " in front. -/
def dropErrorPrefix (message : String) : String := (textBehind "ERROR: " message).getD message

/-- What a command that failed has written to stderr, else to stdout. -/
def Language.refusalText (l : Language) (stdout stderr : String) : String :=
  if l.strip stderr = "" then l.strip stdout else l.strip stderr

/-! ### Step by step -/

inductive SessionOp
  /-- What is read of the client's files: the fingerprint of its key, or what is wrong with them. -/
  | clientKey
  /-- The setup, under the name "enroll"; the answer is its error. -/
  | connect
  | newSession
  | stdoutPipe
  | stderrPipe
  | start (command : String)
  /-- All of the text, and an error on the way. -/
  | readStdout
  | readStderr
  /-- `session.Wait()`. -/
  | wait
  /-- `recv_exit_status()`. -/
  | exitStatus
  /-- `ctx.Err()`. -/
  | contextErr
  | closeSession
  | closeClient
  deriving DecidableEq

@[reducible] def SessionOp.Ans : SessionOp → Type
  | clientKey => Except String String
  | readStdout | readStderr => String × Option String
  | exitStatus => ℤ
  | closeSession | closeClient => Unit
  | _ => Option String

abbrev enrolling : Iface := ⟨SessionOp, SessionOp.Ans⟩

/-- An error is its text. -/
abbrev EnrollFlow := Prog enrolling String

def orThrow (err : Option String) (text : String → String) : EnrollFlow Unit :=
  match err with
  | some why => throw (text why)
  | none => pure ()

/-- What Go and Python do around the command. -/
def enrollmentSession (l : Language) (label : String) (connectError : String → String)
    (body : String → EnrollFlow EnrollmentResult) : EnrollFlow EnrollmentResult := do
  liftM ((l.validateEnrollmentLabel label).mapError SdkError.text)
  let key ← query (I := enrolling) .clientKey
  let fingerprint ← liftM key
  let dialed ← query (I := enrolling) .connect
  orThrow dialed connectError
  (body fingerprint).finallyDo (query (I := enrolling) .closeClient)

namespace Go

def enrollmentError (text : String) : String := s!"enrollment failed: {text}"

def refusal (stdout stderr why : String) : String :=
  if dropErrorPrefix (Language.go.refusalText stdout stderr) = "" then why
  else dropErrorPrefix (Language.go.refusalText stdout stderr)

/-- From where the command has started; the two texts are read at the same time.
The end of the context closes the session under these steps, which then fail or
fall short; why it ended comes first. -/
def readReply (quote : String → String) (fingerprint : String) : EnrollFlow EnrollmentResult := do
  let errOutput ← query (I := enrolling) .readStderr
  let output ← query (I := enrolling) .readStdout
  let ended ← query (I := enrolling) .contextErr
  orThrow ended id
  orThrow output.2 fun why => enrollmentError s!"failed to read response: {why}"
  let waited ← query (I := enrolling) .wait
  match waited with
  | some why =>
    let ended ← query (I := enrolling) .contextErr
    throw (ended.getD (enrollmentError (refusal output.1 errOutput.1 why)))
  | none => liftM (Language.go.parseEnrollmentReply quote (Language.go.strip output.1) fingerprint)

def runCommand (quote : String → String) (label fingerprint : String) : EnrollFlow EnrollmentResult := do
  let stdout ← query (I := enrolling) .stdoutPipe
  orThrow stdout enrollmentError
  let stderr ← query (I := enrolling) .stderrPipe
  orThrow stderr enrollmentError
  let started ← query (I := enrolling) (.start (enrollmentCommand label))
  match started with
  | some why =>
    let ended ← query (I := enrolling) .contextErr
    throw (ended.getD (enrollmentError s!"failed to start enrollment: {why}"))
  | none => readReply quote fingerprint

def requestEnrollment (quote : String → String) (label : String) : EnrollFlow EnrollmentResult :=
  enrollmentSession .go label (fun why => enrollmentError s!"failed to connect to SSH server: {why}") fun fingerprint => do
    let opened ← query (I := enrolling) .newSession
    orThrow opened fun why => enrollmentError s!"failed to create session: {why}"
    (runCommand quote label fingerprint).finallyDo (query (I := enrolling) .closeSession)

end Go

namespace Python

/-- A text that cannot be read or decoded raises what it raises. -/
def decoded (read : String × Option String) : EnrollFlow String :=
  match read.2 with
  | some why => throw why
  | none => pure read.1

def refusal (message : String) : String :=
  if dropErrorPrefix message = "" then "Enrollment rejected" else dropErrorPrefix message

def runCommand (quote : String → String) (label fingerprint : String) : EnrollFlow EnrollmentResult := do
  let started ← query (I := enrolling) (.start (enrollmentCommand label))
  orThrow started id
  let status ← query (I := enrolling) .exitStatus
  if status = 0 then
    let read ← query (I := enrolling) .readStdout
    let stdout ← decoded read
    liftM (Language.python.parseEnrollmentReply quote (Language.python.strip stdout) fingerprint)
  else
    let read ← query (I := enrolling) .readStderr
    let stderr ← decoded read
    if Language.python.strip stderr = "" then
      let read ← query (I := enrolling) .readStdout
      let stdout ← decoded read
      throw (refusal (Language.python.strip stdout))
    else throw (refusal (Language.python.strip stderr))

def requestEnrollment (quote : String → String) (label : String) : EnrollFlow EnrollmentResult :=
  enrollmentSession .python label id (runCommand quote label)

end Python

/-! ### Every run -/

def SessionOp.command? : SessionOp → Option String
  | start command => some command
  | _ => none

def commandsOf (t : Trace enrolling) : List String := t.filterMap fun e => e.op.command?

/-- The command ended with status 0. -/
def exitedOk : Language → Event enrolling
  | .go => ⟨.wait, none⟩
  | _ => ⟨.exitStatus, (0 : ℤ)⟩

/-- What a run of the command leaves behind. -/
structure CommandRun (l : Language) (label fingerprint : String) (t : Trace enrolling)
    (r : Except String EnrollmentResult) : Prop where
  commands : commandsOf t = [] ∨ commandsOf t = [enrollmentCommand label]
  enrolled : ∀ res, r = .ok res → commandsOf t = [enrollmentCommand label] ∧ res.fingerprint = fingerprint ∧
    exitedOk l ∈ t ∧ ∃ stdout, ⟨.readStdout, (stdout, none)⟩ ∈ t ∧ l.strip stdout = res.text

/-- What a session leaves behind. -/
structure SessionRun (l : Language) (label : String) (t : Trace enrolling)
    (r : Except String EnrollmentResult) : Prop where
  commands : commandsOf t = [] ∨ commandsOf t = [enrollmentCommand label]
  refused : l.validateEnrollmentLabel label ≠ .ok () → t = []
  closed : ⟨.connect, none⟩ ∈ t → ∃ t', t = t' ++ [⟨.closeClient, ()⟩]
  enrolled : ∀ res, r = .ok res → commandsOf t = [enrollmentCommand label] ∧
    ⟨.clientKey, .ok res.fingerprint⟩ ∈ t ∧ exitedOk l ∈ t ∧
      ∃ stdout, ⟨.readStdout, (stdout, none)⟩ ∈ t ∧ l.strip stdout = res.text

section Runs

variable {l : Language} {quote : String → String} {label fingerprint : String} {t t' : Trace enrolling}

@[simp] theorem commandsOf_append : commandsOf (t ++ t') = commandsOf t ++ commandsOf t' :=
  List.filterMap_append ..

/-- A step that starts no command. -/
def Quiet (e : Event enrolling) : Prop := e.op.command? = none

theorem commandsOf_quiet (h : ∀ e ∈ t, Quiet e) : commandsOf t = [] :=
  List.filterMap_eq_nil_iff.mpr h

theorem emits_orThrow {err : Option String} {text : String → String} : Emits Quiet (orThrow err text) := by
  cases err <;> exact emits_done _

theorem runs_orThrow_bind {α : Type} {err : Option String} {text : String → String} {p : EnrollFlow α}
    {r : Except String α} (h : Runs (orThrow err text >>= fun _ => p) t r) :
    (∃ why, err = some why ∧ t = [] ∧ r = .error (text why)) ∨ err = none ∧ Runs p t r := by
  cases err with
  | some why => exact Or.inl ⟨why, rfl, h⟩
  | none => exact Or.inr ⟨rfl, h⟩

theorem runs_finallyDo_close {α : Type} {p : EnrollFlow α} {q : EnrollFlow Unit} {e : Event enrolling}
    {r : Except String α} (hq : ∀ t r, Runs q t r → t = [e] ∧ r = .ok ()) (h : Runs (p.finallyDo q) t r) :
    ∃ t₁, t = t₁ ++ [e] ∧ Runs p t₁ r := by
  obtain ⟨r', t₁, t₂, rfl, hp, hclose⟩ := runs_finallyDo.mp h
  rcases hclose with ⟨_, hfailed, -⟩ | ⟨hclosed, rfl⟩
  · cases (hq _ _ hfailed).2
  · rw [(hq _ _ hclosed).1]
    exact ⟨t₁, rfl, hp⟩

theorem Language.parseEnrollmentReply_ok {reply : String} {res : EnrollmentResult} :
    l.parseEnrollmentReply quote reply fingerprint = .ok res ↔
      reply = res.text ∧ res.fingerprint = fingerprint ∧ fingerprint ≠ "" :=
  AplaneSdk.parseEnrollmentReply_ok

/-- Steps around a run of the command that start none. -/
theorem CommandRun.around {r : Except String EnrollmentResult} (h : CommandRun l label fingerprint t r)
    (before after : Trace enrolling) (hbefore : ∀ e ∈ before, Quiet e) (hafter : ∀ e ∈ after, Quiet e) :
    CommandRun l label fingerprint (before ++ t ++ after) r := by
  have hcommands : commandsOf (before ++ t ++ after) = commandsOf t := by
    rw [commandsOf_append, commandsOf_append, commandsOf_quiet hbefore, commandsOf_quiet hafter]
    simp
  have hsubset : t ⊆ before ++ t ++ after := fun e he => by simp [he]
  refine ⟨hcommands ▸ h.commands, fun res hres => ?_⟩
  obtain ⟨hone, hown, hexited, stdout, hread, htext⟩ := h.enrolled res hres
  exact ⟨hcommands.trans hone, hown, hsubset hexited, stdout, hsubset hread, htext⟩

theorem Go.emits_readReply : Emits Quiet (Go.readReply quote fingerprint) := by
  refine emits_bind (emits_query fun _ => rfl) fun errOutput => emits_bind (emits_query fun _ => rfl) fun output => ?_
  refine emits_bind (emits_query fun _ => rfl) fun ended => emits_bind emits_orThrow fun _ => ?_
  refine emits_bind emits_orThrow fun _ => emits_bind (emits_query fun _ => rfl) fun waited => ?_
  cases waited with
  | some why => exact emits_bind (emits_query fun _ => rfl) fun _ => emits_done _
  | none => exact emits_lift _

theorem Go.readReply_ok {res : EnrollmentResult} (h : Runs (Go.readReply quote fingerprint) t (.ok res)) :
    res.fingerprint = fingerprint ∧ exitedOk .go ∈ t ∧
      ∃ stdout, ⟨.readStdout, (stdout, none)⟩ ∈ t ∧ Language.go.strip stdout = res.text := by
  obtain ⟨errOutput, t₁, rfl, h₁⟩ := runs_query_bind.mp h
  obtain ⟨⟨stdout, failed⟩, t₂, rfl, h₂⟩ := runs_query_bind.mp h₁
  obtain ⟨ended, t₃, rfl, h₃⟩ := runs_query_bind.mp h₂
  rcases runs_orThrow_bind h₃ with ⟨_, -, -, he⟩ | ⟨-, h₄⟩
  · cases he
  rcases runs_orThrow_bind h₄ with ⟨_, -, -, he⟩ | ⟨hread, h₅⟩
  · cases he
  obtain rfl : failed = none := hread
  obtain ⟨waited, t₄, rfl, h₆⟩ := runs_query_bind.mp h₅
  cases waited with
  | some why =>
    obtain ⟨_, _, -, -, he⟩ := runs_query_bind.mp h₆
    cases he
  | none =>
    obtain ⟨rfl, hreply⟩ := h₆
    obtain ⟨htext, hown, -⟩ := Language.parseEnrollmentReply_ok.mp hreply.symm
    exact ⟨hown, by simp [exitedOk], stdout, by simp, htext⟩

theorem Go.runCommand_run {r : Except String EnrollmentResult} (h : Runs (Go.runCommand quote label fingerprint) t r) :
    CommandRun .go label fingerprint t r := by
  obtain ⟨stdout, t₁, rfl, h₁⟩ := runs_query_bind.mp h
  rcases runs_orThrow_bind h₁ with ⟨_, -, rfl, rfl⟩ | ⟨-, h₂⟩
  · exact ⟨Or.inl rfl, nofun⟩
  obtain ⟨stderr, t₂, rfl, h₃⟩ := runs_query_bind.mp h₂
  rcases runs_orThrow_bind h₃ with ⟨_, -, rfl, rfl⟩ | ⟨-, h₄⟩
  · exact ⟨Or.inl rfl, nofun⟩
  obtain ⟨started, t₃, rfl, h₅⟩ := runs_query_bind.mp h₄
  cases started with
  | some why =>
    obtain ⟨ended, t₄, rfl, rfl, rfl⟩ := runs_query_bind.mp h₅
    exact ⟨Or.inr rfl, nofun⟩
  | none =>
    have hone : commandsOf (⟨.start (enrollmentCommand label), none⟩ :: t₃) = [enrollmentCommand label] :=
      congrArg _ (commandsOf_quiet (Go.emits_readReply _ _ h₅))
    have hrun : CommandRun .go label fingerprint (⟨.start (enrollmentCommand label), none⟩ :: t₃) r := by
      refine ⟨Or.inr hone, ?_⟩
      rintro res rfl
      obtain ⟨hown, hexited, out, hread, htext⟩ := Go.readReply_ok h₅
      exact ⟨hone, hown, List.mem_cons_of_mem _ hexited, out, List.mem_cons_of_mem _ hread, htext⟩
    simpa using hrun.around [⟨.stdoutPipe, stdout⟩, ⟨.stderrPipe, stderr⟩] []
      (by simp [Quiet, SessionOp.command?]) nofun

theorem Python.runs_decoded_bind {α : Type} {read : String × Option String} {f : String → EnrollFlow α}
    {r : Except String α} (h : Runs (Python.decoded read >>= f) t r) :
    (∃ why, t = [] ∧ r = .error why) ∨ read.2 = none ∧ Runs (f read.1) t r := by
  obtain ⟨text, failed⟩ := read
  cases failed with
  | some why => exact Or.inl ⟨why, h⟩
  | none => exact Or.inr ⟨rfl, h⟩

theorem Python.runCommand_run {r : Except String EnrollmentResult}
    (h : Runs (Python.runCommand quote label fingerprint) t r) : CommandRun .python label fingerprint t r := by
  obtain ⟨started, t₁, rfl, h₁⟩ := runs_query_bind.mp h
  rcases runs_orThrow_bind h₁ with ⟨_, -, rfl, rfl⟩ | ⟨-, h₂⟩
  · exact ⟨Or.inr rfl, nofun⟩
  obtain ⟨status, t₂, rfl, h₃⟩ := runs_query_bind.mp h₂
  by_cases hstatus : status = 0
  · subst hstatus
    rw [if_pos rfl] at h₃
    obtain ⟨⟨stdout, failed⟩, t₃, rfl, h₄⟩ := runs_query_bind.mp h₃
    rcases Python.runs_decoded_bind h₄ with ⟨_, rfl, rfl⟩ | ⟨hread, rfl, rfl⟩
    · exact ⟨Or.inr rfl, nofun⟩
    · obtain rfl : failed = none := hread
      refine ⟨Or.inr rfl, fun res hres => ?_⟩
      obtain ⟨htext, hown, -⟩ := Language.parseEnrollmentReply_ok.mp hres
      exact ⟨rfl, hown, by simp [exitedOk], stdout, by simp, htext⟩
  · rw [if_neg hstatus] at h₃
    obtain ⟨read, t₃, rfl, h₄⟩ := runs_query_bind.mp h₃
    rcases Python.runs_decoded_bind h₄ with ⟨_, rfl, rfl⟩ | ⟨-, h₅⟩
    · exact ⟨Or.inr rfl, nofun⟩
    by_cases hempty : Language.python.strip read.1 = ""
    · rw [if_pos hempty] at h₅
      obtain ⟨read', t₄, rfl, h₆⟩ := runs_query_bind.mp h₅
      rcases Python.runs_decoded_bind h₆ with ⟨_, rfl, rfl⟩ | ⟨-, rfl, rfl⟩
      · exact ⟨Or.inr rfl, nofun⟩
      · exact ⟨Or.inr rfl, nofun⟩
    · rw [if_neg hempty] at h₅
      obtain ⟨rfl, rfl⟩ := h₅
      exact ⟨Or.inr rfl, nofun⟩

/-- The session keeps what its command keeps, and closes the client after it. -/
theorem enrollmentSession_run {connectError : String → String} {body : String → EnrollFlow EnrollmentResult}
    {r : Except String EnrollmentResult} (hbody : ∀ f t r, Runs (body f) t r → CommandRun l label f t r)
    (h : Runs (enrollmentSession l label connectError body) t r) : SessionRun l label t r := by
  rcases runs_lift_bind.mp h with ⟨e, he, rfl, rfl⟩ | ⟨_, hlabel, h₁⟩
  · exact ⟨Or.inl rfl, fun _ => rfl, nofun, nofun⟩
  have hvalid : l.validateEnrollmentLabel label = .ok () := by
    cases hlabelled : l.validateEnrollmentLabel label with
    | ok _ => rfl
    | error e =>
      rw [hlabelled] at hlabel
      cases hlabel
  obtain ⟨key, t₁, rfl, h₂⟩ := runs_query_bind.mp h₁
  rcases runs_lift_bind.mp h₂ with ⟨e, he, rfl, rfl⟩ | ⟨own, rfl, h₃⟩
  · exact ⟨Or.inl rfl, absurd hvalid, by simp, nofun⟩
  obtain ⟨dialed, t₂, rfl, h₄⟩ := runs_query_bind.mp h₃
  rcases runs_orThrow_bind h₄ with ⟨why, rfl, rfl, rfl⟩ | ⟨rfl, h₅⟩
  · exact ⟨Or.inl rfl, absurd hvalid, by simp, nofun⟩
  obtain ⟨t₃, rfl, hrun⟩ := runs_finallyDo_close (e := ⟨.closeClient, ()⟩) (fun t r hclose => by
    obtain ⟨_, rfl, rfl⟩ := runs_query.mp hclose
    exact ⟨rfl, rfl⟩) h₅
  have hcommand := (hbody own t₃ r hrun).around [⟨.clientKey, .ok own⟩, ⟨.connect, none⟩]
    [⟨.closeClient, ()⟩] (by simp [Quiet, SessionOp.command?]) (by simp [Quiet, SessionOp.command?])
  refine ⟨hcommand.commands, absurd hvalid, fun _ => ⟨_ :: _ :: t₃, rfl⟩, fun res hres => ?_⟩
  obtain ⟨hone, rfl, hexited, hread⟩ := hcommand.enrolled res hres
  exact ⟨hone, List.mem_cons_self, hexited, hread⟩

/-- **Step by step, in Go and Python.** In every run of a request for
enrollment: a label that is refused asks nothing of anyone; the command is run
at most once; a client that connected is closed at the end; and an answer is
returned only where the command ended with status 0, wrote that answer, and
named the key that this client has. -/
theorem enrollment_session (quote : String → String) (label : String) :
    (∀ t r, Runs (Go.requestEnrollment quote label) t r → SessionRun .go label t r) ∧
      ∀ t r, Runs (Python.requestEnrollment quote label) t r → SessionRun .python label t r := by
  constructor
  · intro t r h
    refine enrollmentSession_run (fun own t r hsession => ?_) h
    obtain ⟨opened, t₁, rfl, h₁⟩ := runs_query_bind.mp hsession
    rcases runs_orThrow_bind h₁ with ⟨_, -, rfl, rfl⟩ | ⟨-, h₂⟩
    · exact ⟨Or.inl rfl, nofun⟩
    obtain ⟨t₂, rfl, hrun⟩ := runs_finallyDo_close (e := ⟨.closeSession, ()⟩) (fun t r hclose => by
      obtain ⟨_, rfl, rfl⟩ := runs_query.mp hclose
      exact ⟨rfl, rfl⟩) h₂
    exact (Go.runCommand_run hrun).around [⟨.newSession, opened⟩] [⟨.closeSession, ()⟩]
      (by simp [Quiet, SessionOp.command?]) (by simp [Quiet, SessionOp.command?])
  · intro t r h
    exact enrollmentSession_run (fun own t r hrun => Python.runCommand_run hrun) h

end Runs

namespace Demo

/-- The request is queued. -/
def queued : (o : SessionOp) → o.Ans
  | .clientKey => .ok "SHA256:c"
  | .readStdout => ("pending SHA256:c\n", none)
  | .readStderr => ("", none)
  | .exitStatus => (0 : ℤ)
  | .closeSession | .closeClient => ()
  | .connect | .newSession | .stdoutPipe | .stderrPipe | .start _ | .wait | .contextErr => none

theorem enrollment_session_queued : ∃ t r,
    r = .ok { fingerprint := "SHA256:c", pending := true } ∧ Runs (Go.requestEnrollment id "laptop") t r ∧
      commandsOf t = ["enroll laptop"] := by
  have hresult : exec (I := enrolling) queued (Go.requestEnrollment id "laptop") =
      .ok { fingerprint := "SHA256:c", pending := true } := by rfl
  have hrun := runs_traceOf (I := enrolling) queued (Go.requestEnrollment id "laptop")
  exact ⟨_, _, hresult, hrun, ((enrollment_session id "laptop").1 _ _ hrun).enrolled _ hresult |>.1⟩

end Demo

/-! ### Callbacks -/

namespace TypeScript

structure EnrollmentOptions where
  host : List Char
  sshPort : ℕ
  knownHostsPath : String
  autoAddHost : Bool
  label : String

/-- The file of the client's private key, as the SSH package parses it. -/
inductive KeyFile
  | missing
  | unparsable (message : String)
  | parsed (fingerprint : String)

/-- What is checked before the promise; the fingerprint of the client's key. -/
def enrollmentChecks (o : EnrollmentOptions) (path : String) (file : KeyFile) : Except SdkError String := do
  validateEnrollmentLabel o.label
  failIf (o.knownHostsPath = "") { text := "known_hosts path is required for SSH host key verification" }
  match file with
  | .missing => signerError s!"SSH key not found: {path}"
  | .unparsable message => signerError s!"failed to parse SSH key {path}: {message}"
  | .parsed fingerprint => pure fingerprint

/-- `exec` has called back with a channel or with an error. -/
inductive ChannelState
  | absent
  | asked
  | opened
  | refused
  | closed
  deriving DecidableEq

/-- The variables of the promise, and what the SSH package holds for it. -/
structure Enrolling where
  /-- The known_hosts file. -/
  file : Option (List Char)
  hostKeyError : String := ""
  settled : Bool := false
  /-- The calls of `resolve` and `reject`; an `EnrollmentError` is its text. -/
  outcomes : List (Except String EnrollmentResult) := []
  /-- The signal has the listener `abortSetup`. -/
  abortable : Bool := false
  aborted : Bool := false
  verified : Option Bool := none
  destroyed : Bool := false
  /-- `client.end()`. -/
  ended : Bool := false
  /-- The SSH client has emitted "error". -/
  failed : Bool := false
  closeSeen : Bool := false
  commands : List String := []
  channel : ChannelState := .absent
  stdout : String := ""
  stderr : String := ""
  /-- The status with which the channel closed. -/
  exit : Option ℕ := none

def Enrolling.finish (s : Enrolling) (r : Except String EnrollmentResult) : Enrolling :=
  if s.settled then s else { s with settled := true, abortable := false, outcomes := s.outcomes ++ [r] }

def enrollmentCanceled : String := "SSH setup canceled"

def Enrolling.abortSetup (s : Enrolling) : Enrolling :=
  if s.settled then s else { s.finish (.error enrollmentCanceled) with destroyed := true }

/-- The callback `hostVerifier`. -/
def Enrolling.hostKey (o : EnrollmentOptions) (s : Enrolling) (key : Bytes) : Enrolling :=
  let check : HostCheck := { host := o.host, port := o.sshPort, key, trust := o.autoAddHost }
  match hostOutcome (hostVerifier o.knownHostsPath .enrollment check) s.file with
  | (.ok (), file) => { s with verified := some true, file }
  | (.error e, file) => { s with verified := some false, hostKeyError := e.text, file }

/-- The callback for "close" of the channel. -/
def sessionOutcome (quote : String → String) (own : String) (code : Option ℕ) (stdout stderr : String) :
    Except String EnrollmentResult :=
  if code = some 0 then
    Language.typescript.parseEnrollmentReply quote (Language.typescript.strip stdout) own
  else .error (dropErrorPrefix (orText (Language.typescript.refusalText stdout stderr) "Enrollment rejected"))

/-- The executor of the promise; the signal may be aborted before it. -/
def Enrolling.start (file : Option (List Char)) (aborted : Bool) : Enrolling :=
  if aborted then { file, aborted : Enrolling }.abortSetup else { file, abortable := true }

inductive EnrollEvent
  | abort
  | hostKey (key : Bytes)
  | ready
  | execFailed (message : String)
  | execOpened
  | data (text : String)
  | stderrData (text : String)
  | channelClose (code : Option ℕ)
  | error (message level : String)
  | close

/-- The SSH client asks for the host key once and not after an error, and is
ready only if it was accepted; a client that was destroyed does neither. -/
def enrollStep (quote : String → String) (o : EnrollmentOptions) (own : String) (s : Enrolling) :
    EnrollEvent → Option Enrolling
  | .abort =>
    if s.aborted then none
    else some (if s.abortable then { s with aborted := true }.abortSetup else { s with aborted := true })
  | .hostKey key =>
    if s.verified = none ∧ s.destroyed = false ∧ s.failed = false ∧ s.closeSeen = false then some (s.hostKey o key)
    else none
  | .ready =>
    if s.verified = some true ∧ s.channel = .absent ∧ s.destroyed = false then
      some { s with channel := .asked, commands := s.commands ++ [enrollmentCommand o.label] }
    else none
  | .execFailed message =>
    if s.channel = .asked then
      some ({ s with channel := .refused, ended := true }.finish (.error s!"Failed to start enrollment: {message}"))
    else none
  | .execOpened => if s.channel = .asked then some { s with channel := .opened } else none
  | .data text => if s.channel = .opened then some { s with stdout := s.stdout ++ text } else none
  | .stderrData text => if s.channel = .opened then some { s with stderr := s.stderr ++ text } else none
  | .channelClose code =>
    if s.channel = .opened then
      some ({ s with channel := .closed, ended := true, exit := code }.finish
        (sessionOutcome quote own code s.stdout s.stderr))
    else none
  | .error message level =>
    some ({ s with failed := true }.finish
      (.error (orText s.hostKeyError (sshConnectionFailedMessage message level "enroll"))))
  | .close =>
    if s.closeSeen then none
    else some ({ s with closeSeen := true }.finish
      (.error (orText s.hostKeyError "SSH connection closed before setup completed")))

/-! ### The invariant of the promise -/

/-- What the caller may be told of a refused host key. -/
def RefusedHost (o : EnrollmentOptions) (text : String) : Prop :=
  ∃ key, let check : HostCheck := { host := o.host, port := o.sshPort, key, trust := o.autoAddHost }
    text = (unknownHost o.knownHostsPath .enrollment check).text ∨
      text = (keyMismatch o.knownHostsPath .enrollment check).text

structure EnrollCore (o : EnrollmentOptions) (own : String) (file : Option (List Char)) (s : Enrolling) : Prop where
  unsettled : s.settled = false → s.outcomes = [] ∧ s.abortable = true ∧ s.destroyed = false
  settled : s.settled = true → s.abortable = false ∧ ∃ r, s.outcomes = [r]
  /-- What can have settled it. -/
  cause : s.settled = true → s.destroyed = true ∨ s.failed = true ∨ s.closeSeen = true ∨ s.verified = some true
  success : ∀ r, .ok r ∈ s.outcomes → s.channel = .closed ∧ s.ended = true ∧ s.exit = some 0 ∧
    Language.typescript.strip s.stdout = r.text ∧ r.fingerprint = own
  failure : ∀ e, .error e ∈ s.outcomes → s.verified = some false → e = enrollmentCanceled ∨ e = s.hostKeyError
  commands : s.channel = .absent ∧ s.commands = [] ∨
    s.channel ≠ .absent ∧ s.commands = [enrollmentCommand o.label] ∧ s.verified = some true
  file : s.file = file ∨ s.verified = some true
  refused : s.verified = some false → s.hostKeyError ≠ "" ∧ RefusedHost o s.hostKeyError

structure EnrollInv (o : EnrollmentOptions) (own : String) (file : Option (List Char)) (s : Enrolling) : Prop
    extends EnrollCore o own file s where
  /-- Neither the signal nor the client nor the channel goes unheard. -/
  heard : s.aborted = true ∨ s.closeSeen = true ∨ s.channel = .refused ∨ s.channel = .closed → s.settled = true

section Keeping

variable {quote : String → String} {o : EnrollmentOptions} {own : String} {file : Option (List Char)}
  {s s' : Enrolling}

theorem EnrollCore.verified (h : EnrollCore o own file s) (hchannel : s.channel ≠ .absent) : s.verified = some true :=
  (h.commands.resolve_left fun habsent => hchannel habsent.1).2.2

/-- Nothing is resolved before the channel closes. -/
theorem EnrollCore.unresolved (h : EnrollCore o own file s) (hchannel : s.channel ≠ .closed) (r : EnrollmentResult) :
    .ok r ∉ s.outcomes := fun hok => hchannel (h.success r hok).1

theorem finish_settled (s : Enrolling) (r : Except String EnrollmentResult) : (s.finish r).settled = true := by
  rw [Enrolling.finish]
  split <;> trivial

theorem EnrollCore.finish (h : EnrollCore o own file s) {r : Except String EnrollmentResult}
    (hcause : s.failed = true ∨ s.closeSeen = true ∨ s.verified = some true)
    (hok : ∀ res, r = .ok res → s.channel = .closed ∧ s.ended = true ∧ s.exit = some 0 ∧
      Language.typescript.strip s.stdout = res.text ∧ res.fingerprint = own)
    (herror : ∀ e, r = .error e → s.verified = some false → e = enrollmentCanceled ∨ e = s.hostKeyError) :
    EnrollInv o own file (s.finish r) := by
  refine { toEnrollCore := ?_, heard := fun _ => finish_settled s r }
  cases hsettled : s.settled with
  | true =>
    rw [Enrolling.finish, if_pos hsettled]
    exact h
  | false =>
    obtain ⟨houtcomes, -, -⟩ := h.unsettled hsettled
    rw [Enrolling.finish, if_neg (by simp [hsettled])]
    exact { h with
      unsettled := nofun
      settled := fun _ => ⟨rfl, r, by rw [houtcomes]; rfl⟩
      cause := fun _ => Or.inr hcause
      success := by
        intro res hres
        have hr : .ok res = r := by simpa [houtcomes] using hres
        exact hok res hr.symm
      failure := by
        intro e he
        have hr : .error e = r := by simpa [houtcomes] using he
        exact herror e hr.symm }

theorem EnrollCore.abortSetup (h : EnrollCore o own file s) : EnrollInv o own file s.abortSetup := by
  cases hsettled : s.settled with
  | true =>
    rw [Enrolling.abortSetup, if_pos hsettled]
    exact { h with heard := fun _ => hsettled }
  | false =>
    obtain ⟨houtcomes, -, -⟩ := h.unsettled hsettled
    rw [Enrolling.abortSetup, if_neg (by simp [hsettled]), Enrolling.finish, if_neg (by simp [hsettled])]
    exact { h with
      unsettled := nofun
      settled := fun _ => ⟨rfl, .error enrollmentCanceled, by rw [houtcomes]; rfl⟩
      cause := fun _ => Or.inl rfl
      success := by simp [houtcomes]
      failure := by
        intro e he _
        exact Or.inl (by simpa [houtcomes] using he)
      heard := fun _ => rfl }

theorem EnrollInv.hostKey (h : EnrollInv o own file s) (hfirst : s.verified = none) (hunsettled : s.settled = false)
    (key : Bytes) : EnrollInv o own file (s.hostKey o key) := by
  obtain ⟨houtcomes, -, -⟩ := h.unsettled hunsettled
  have hpending : s.settled ≠ true := by simp [hunsettled]
  have hidle : s.channel = .absent ∧ s.commands = [] :=
    h.commands.resolve_right fun hasked => by
      have := hasked.2.2
      rw [hfirst] at this
      cases this
  rw [Enrolling.hostKey]
  split
  · exact { h with
      cause := fun hsettled => absurd hsettled hpending
      success := by simp [houtcomes]
      failure := by simp [houtcomes]
      commands := Or.inl hidle
      file := Or.inr rfl
      refused := nofun }
  · rename_i e file' houtcome
    obtain ⟨hfile, htext⟩ := hostVerifier_refuses houtcome
    exact { h with
      cause := fun hsettled => absurd hsettled hpending
      success := by simp [houtcomes]
      failure := by simp [houtcomes]
      commands := Or.inl hidle
      file := Or.inl (hfile.trans (h.file.resolve_right (by simp [hfirst])))
      refused := fun _ =>
        ⟨refusal_text htext, key, htext.imp (congrArg SdkError.text) (congrArg SdkError.text)⟩ }

theorem sessionOutcome_ok {code : Option ℕ} {stdout stderr : String} {r : EnrollmentResult}
    (h : sessionOutcome quote own code stdout stderr = .ok r) :
    code = some 0 ∧ Language.typescript.strip stdout = r.text ∧ r.fingerprint = own := by
  unfold sessionOutcome at h
  by_cases hcode : code = some 0
  · rw [if_pos hcode] at h
    obtain ⟨htext, hown, -⟩ := Language.parseEnrollmentReply_ok.mp h
    exact ⟨hcode, htext, hown⟩
  · rw [if_neg hcode] at h
    cases h

/-- An end of the command settles what is not settled yet. -/
theorem EnrollCore.finish_verified (h : EnrollCore o own file s) (hverified : s.verified = some true)
    {r : Except String EnrollmentResult} (hok : ∀ res, r = .ok res → s.channel = .closed ∧ s.ended = true ∧
      s.exit = some 0 ∧ Language.typescript.strip s.stdout = res.text ∧ res.fingerprint = own) :
    EnrollInv o own file (s.finish r) :=
  h.finish (Or.inr (Or.inr hverified)) hok fun _ _ hrefused => absurd (hverified.symm.trans hrefused) nofun

/-- So does an error of the client, put down to the host key where that was refused. -/
theorem EnrollCore.finish_told (h : EnrollCore o own file s) (hcause : s.failed = true ∨ s.closeSeen = true)
    (text : String) : EnrollInv o own file (s.finish (.error (orText s.hostKeyError text))) := by
  refine h.finish (hcause.imp_right Or.inl) nofun fun e he hrefused => ?_
  cases he
  rw [orText, if_neg (h.refused hrefused).1]
  exact Or.inr rfl

/-- **Every callback keeps the invariant.** -/
theorem EnrollInv.step (h : EnrollInv o own file s) {e : EnrollEvent} (hs : enrollStep quote o own s e = some s') :
    EnrollInv o own file s' := by
  cases e with
  | abort =>
    simp only [enrollStep, Option.ite_none_left_eq_some, Option.some.injEq] at hs
    obtain ⟨-, rfl⟩ := hs
    have hcore : EnrollCore o own file { s with aborted := true } := { h with }
    split
    · exact hcore.abortSetup
    · rename_i hdeaf
      have hsettled : s.settled = true := by
        by_contra hpending
        exact hdeaf (h.unsettled (by simpa using hpending)).2.1
      exact { hcore with heard := fun _ => hsettled }
  | hostKey key =>
    simp only [enrollStep, Option.ite_none_right_eq_some, Option.some.injEq] at hs
    obtain ⟨⟨hfirst, halive, hsound, hopen⟩, rfl⟩ := hs
    have hunsettled : s.settled = false := by
      by_contra hsettled
      have := h.cause (by simpa using hsettled)
      simp [hfirst, halive, hsound, hopen] at this
    exact h.hostKey hfirst hunsettled key
  | ready =>
    simp only [enrollStep, Option.ite_none_right_eq_some, Option.some.injEq] at hs
    obtain ⟨⟨hverified, habsent, -⟩, rfl⟩ := hs
    have hnone : s.commands = [] := (h.commands.resolve_right fun hasked => hasked.1 habsent).2
    exact { h with
      success := fun r hok => absurd hok (h.unresolved (by simp [habsent]) r)
      commands := Or.inr ⟨nofun, by rw [hnone]; rfl, hverified⟩
      heard := fun hevent => h.heard (Or.imp_right Or.inl (by simpa using hevent)) }
  | execFailed message =>
    simp only [enrollStep, Option.ite_none_right_eq_some, Option.some.injEq] at hs
    obtain ⟨hasked, rfl⟩ := hs
    have hverified := h.verified (by simp [hasked])
    have hcore : EnrollCore o own file { s with channel := .refused, ended := true } := { h with
      success := fun r hok => absurd hok (h.unresolved (by simp [hasked]) r)
      commands := Or.inr ⟨nofun, (h.commands.resolve_left (by simp [hasked])).2⟩ }
    exact hcore.finish_verified hverified nofun
  | execOpened =>
    simp only [enrollStep, Option.ite_none_right_eq_some, Option.some.injEq] at hs
    obtain ⟨hasked, rfl⟩ := hs
    exact { h with
      success := fun r hok => absurd hok (h.unresolved (by simp [hasked]) r)
      commands := Or.inr ⟨nofun, (h.commands.resolve_left (by simp [hasked])).2⟩
      heard := fun hevent => h.heard (Or.imp_right Or.inl (by simpa using hevent)) }
  | data text =>
    simp only [enrollStep, Option.ite_none_right_eq_some, Option.some.injEq] at hs
    obtain ⟨hopened, rfl⟩ := hs
    exact { h with success := fun r hok => absurd hok (h.unresolved (by simp [hopened]) r) }
  | stderrData text =>
    simp only [enrollStep, Option.ite_none_right_eq_some, Option.some.injEq] at hs
    obtain ⟨-, rfl⟩ := hs
    exact { h with }
  | channelClose code =>
    simp only [enrollStep, Option.ite_none_right_eq_some, Option.some.injEq] at hs
    obtain ⟨hopened, rfl⟩ := hs
    have hverified := h.verified (by simp [hopened])
    have hcore : EnrollCore o own file { s with channel := .closed, ended := true, exit := code } := { h with
      success := fun r hok => absurd hok (h.unresolved (by simp [hopened]) r)
      commands := Or.inr ⟨nofun, (h.commands.resolve_left (by simp [hopened])).2⟩ }
    refine hcore.finish_verified hverified fun res hres => ?_
    obtain ⟨hcode, htext, hown⟩ := sessionOutcome_ok hres
    exact ⟨rfl, rfl, hcode, htext, hown⟩
  | error message level =>
    cases hs
    have hcore : EnrollCore o own file { s with failed := true } := { h with cause := fun _ => Or.inr (Or.inl rfl) }
    exact hcore.finish_told (Or.inl rfl) _
  | close =>
    simp only [enrollStep, Option.ite_none_left_eq_some, Option.some.injEq] at hs
    obtain ⟨-, rfl⟩ := hs
    have hcore : EnrollCore o own file { s with closeSeen := true } :=
      { h with cause := fun _ => Or.inr (Or.inr (Or.inl rfl)) }
    exact hcore.finish_told (Or.inr rfl) _

theorem enrollInv_start (aborted : Bool) : EnrollInv o own file (Enrolling.start file aborted) := by
  cases aborted with
  | false => exact { toEnrollCore := by constructor <;> simp [Enrolling.start], heard := by simp [Enrolling.start] }
  | true =>
    have hcanceled : Enrolling.start file true =
        { file, aborted := true, settled := true, destroyed := true, outcomes := [.error enrollmentCanceled] } := rfl
    rw [hcanceled]
    exact { toEnrollCore := by constructor <;> simp, heard := fun _ => rfl }

theorem enrollmentChecks_ok {path : String} {key : KeyFile} (h : enrollmentChecks o path key = .ok own) :
    validateEnrollmentLabel o.label = .ok () ∧ key = .parsed own := by
  unfold enrollmentChecks at h
  cases hlabel : validateEnrollmentLabel o.label with
  | error e =>
    rw [hlabel] at h
    cases h
  | ok _ =>
    rw [hlabel] at h
    unfold failIf at h
    by_cases hpath : o.knownHostsPath = ""
    · rw [if_pos hpath] at h
      cases h
    · rw [if_neg hpath] at h
      cases key with
      | parsed fingerprint =>
        cases h
        exact ⟨rfl, rfl⟩
      | _ => cases h

/-- **The promise of an enrollment.** After every sequence of callbacks: it was
settled at most once, and was settled if the signal was aborted, the connection
closed or the command ended. The command was run at most once, for a label that
is valid, and only where the host key was accepted. An answer is what the
command wrote before it ended with status 0, and names this client's key. A host
key that was refused is what the caller is told, unless it canceled, and is not
stored. -/
theorem enrollment_settles {path : String} {key : KeyFile} {aborted : Bool} {es : List EnrollEvent}
    (hchecks : enrollmentChecks o path key = .ok own)
    (hrun : react (enrollStep quote o own) (Enrolling.start file aborted) es = some s) :
    (s.outcomes = [] ∧ s.aborted = false ∧ s.closeSeen = false ∧ s.channel ≠ .closed ∨
        s.abortable = false ∧ ∃ r, s.outcomes = [r]) ∧
      (s.commands = [] ∨ s.commands = [enrollmentCommand o.label] ∧ s.verified = some true ∧
        validateEnrollmentLabel o.label = .ok ()) ∧
      (∀ r, s.outcomes = [.ok r] → s.commands = [enrollmentCommand o.label] ∧ s.exit = some 0 ∧ s.ended = true ∧
        Language.typescript.strip s.stdout = r.text ∧ key = .parsed r.fingerprint) ∧
      (∀ e, s.outcomes = [.error e] → s.verified = some false →
        s.file = file ∧ (e = enrollmentCanceled ∨ RefusedHost o e)) := by
  have h : EnrollInv o own file s := react_keeps (fun _ _ _ h hs => h.step hs) (enrollInv_start aborted) hrun
  obtain ⟨hvalid, hkey⟩ := enrollmentChecks_ok hchecks
  refine ⟨?_, ?_, fun r hr => ?_, fun e he hrefused => ?_⟩
  · rcases Bool.eq_false_or_eq_true s.settled with hsettled | hpending
    · exact Or.inr (h.settled hsettled)
    · have hunheard := mt h.heard (by simp [hpending])
      simp only [not_or, Bool.not_eq_true] at hunheard
      exact Or.inl ⟨(h.unsettled hpending).1, hunheard.1, hunheard.2.1, hunheard.2.2.2⟩
  · rcases h.commands with ⟨-, hnone⟩ | ⟨-, hone, hverified⟩
    · exact Or.inl hnone
    · exact Or.inr ⟨hone, hverified, hvalid⟩
  · obtain ⟨hclosed, hended, hexit, htext, rfl⟩ := h.success r (by simp [hr])
    obtain ⟨-, hone, -⟩ := h.commands.resolve_left (by simp [hclosed])
    exact ⟨hone, hexit, hended, htext, hkey⟩
  · refine ⟨h.file.resolve_right (by simp [hrefused]), (h.failure e (by simp [he]) hrefused).imp_right fun htold => ?_⟩
    subst htold
    exact (h.refused hrefused).2

end Keeping

namespace Demo

def enrollmentOptions : EnrollmentOptions where
  host := "signer.example".toList
  sshPort := 1127
  knownHostsPath := "known_hosts"
  autoAddHost := true
  label := "laptop"

/-- The answer comes in two pieces, and the connection closes after it. -/
def pendingReply : List EnrollEvent :=
  [.hostKey [0, 1], .ready, .execOpened, .data "pending SHA", .data "256:c\n", .channelClose (some 0), .close]

theorem enrollment_settles_pending : ∃ s,
    react (enrollStep id enrollmentOptions "SHA256:c") (Enrolling.start none false) pendingReply = some s ∧
      s.outcomes = [.ok { fingerprint := "SHA256:c", pending := true }] ∧ s.commands = ["enroll laptop"] := by
  obtain ⟨s, hrun, houtcomes⟩ : ∃ s,
      react (enrollStep id enrollmentOptions "SHA256:c") (Enrolling.start none false) pendingReply = some s ∧
        s.outcomes = [.ok { fingerprint := "SHA256:c", pending := true }] := ⟨_, rfl, rfl⟩
  have hchecks : enrollmentChecks enrollmentOptions "id_ed25519" (.parsed "SHA256:c") = .ok "SHA256:c" := by rfl
  obtain ⟨-, -, hresolved, -⟩ := enrollment_settles hchecks hrun
  exact ⟨s, hrun, houtcomes, (hresolved _ houtcomes).1⟩

end Demo

end TypeScript

end AplaneSdk
