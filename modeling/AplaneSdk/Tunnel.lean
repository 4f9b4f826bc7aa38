/-
# The tunnel of TypeScript

`SSHTunnel.connect` is one promise, settled by callbacks of three sources: the
SSH client, the local server and the caller's signal. They may come in any
order that the packages allow, also after the promise is settled: a server that
was told to close before it was bound still comes up, and its callback has to
close it.

Key definitions: `TypeScript.Tunnel`, `TypeScript.Tunnel.failSetup`,
`TypeScript.tunnelStep`, `TypeScript.TunnelInv`.
Key theorems: `TypeScript.TunnelInv.failSetup`, `TypeScript.TunnelInv.step`,
`TypeScript.tunnel_settles`.
-/
import AplaneSdk.HostKeys
import AplaneSdk.Lib.Events

namespace AplaneSdk

namespace TypeScript

open Interaction Interaction.Prog

/-! ### The callbacks -/

structure TunnelOptions where
  host : List Char
  sshPort : ℕ
  knownHostsPath : String
  trustOnFirstUse : Bool

/-- A server has no address until it is bound, and says so later. -/
inductive ServerState
  | absent
  | opening
  | bound
  | listening
  | closed
  deriving DecidableEq

/-- `server?.close()`. There is nothing to close before the server is bound. -/
def ServerState.close : ServerState → ServerState
  | .bound | .listening => .closed
  | s => s

/-- A server that cannot be bound is not. -/
def ServerState.fail : ServerState → ServerState
  | .opening | .bound => .closed
  | s => s

/-- The variables of `connect`, and what the packages hold for it. -/
structure Tunnel where
  /-- The known_hosts file. -/
  file : Option (List Char)
  hostKeyError : String := ""
  settled : Bool := false
  /-- The calls of `resolve` and `reject`. -/
  outcomes : List (Except SdkError Unit) := []
  sshClosed : Bool := false
  /-- The signal has the listener `abortSetup`. -/
  abortable : Bool := false
  aborted : Bool := false
  /-- What the host key verifier said. -/
  verified : Option Bool := none
  ready : Bool := false
  destroyed : Bool := false
  /-- The SSH client has emitted "close". -/
  closeSeen : Bool := false
  server : ServerState := .absent
  /-- The caller has called `close`. -/
  released : Bool := false
  /-- `close` waits for the SSH client to emit "close". -/
  waiting : Bool := false

def Tunnel.failSetup (s : Tunnel) (error : SdkError) : Tunnel :=
  if s.settled then s
  else
    { s with
      settled := true
      abortable := false
      server := s.server.close
      sshClosed := true
      destroyed := true
      outcomes := s.outcomes ++ [.error error] }

def setupCanceled : SdkError where
  kind := .signerUnavailable
  text := "SSH setup canceled"

def CLIENT_SSH_KEY_REQUIREMENT : String := "Ed25519, ECDSA (P-256/384/521), or hardware-backed sk- Ed25519/ECDSA"

def SSH_USERNAME : String := "aplane"

def sshConnectionFailedMessage (message level : String) (username : String := SSH_USERNAME) : String :=
  if level = "client-authentication" then
    if username = SSH_USERNAME then
      s!"SSH connection failed: {message}: the client's SSH key is not enrolled at the signer, or was revoked " ++
        s!"(the signer accepts {CLIENT_SSH_KEY_REQUIREMENT} client keys); " ++
        "enroll it with requestEnrollment or apshell enroll"
    else s!"SSH connection failed: {message} (the signer accepts {CLIENT_SSH_KEY_REQUIREMENT} client keys)"
  else s!"SSH connection failed: {message}"

/-- `a || b` of two strings. -/
def orText (a b : String) : String := if a = "" then b else a

/-- The callback for "error" of the SSH client. -/
def Tunnel.clientError (s : Tunnel) (message level : String) : SdkError where
  kind := if s.hostKeyError = "" ∧ level = "client-authentication" then .authentication else .signerUnavailable
  text := orText s.hostKeyError (sshConnectionFailedMessage message level)

/-- The callback for "close" of the SSH client. -/
def Tunnel.clientClosed (s : Tunnel) : SdkError where
  kind := .signerUnavailable
  text := orText s.hostKeyError "SSH connection closed before setup completed"

def serverError (message : String) : SdkError where
  kind := .signerUnavailable
  text := s!"SSH tunnel server error: {message}"

/-- The callback `hostVerifier`. -/
def Tunnel.hostKey (o : TunnelOptions) (s : Tunnel) (key : Bytes) : Tunnel :=
  let check : HostCheck := { host := o.host, port := o.sshPort, key, trust := o.trustOnFirstUse }
  match hostOutcome (hostVerifier o.knownHostsPath .tunnel check) s.file with
  | (.ok (), file) => { s with verified := some true, file }
  | (.error e, file) => { s with verified := some false, hostKeyError := e.text, file }

/-- The callback of `listen`. -/
def Tunnel.listening (s : Tunnel) : Tunnel :=
  if s.settled then { s with server := s.server.close }
  else { s with settled := true, abortable := false, outcomes := s.outcomes ++ [.ok ()] }

/-- The executor of the promise; the signal may be aborted before it. -/
def Tunnel.connect (file : Option (List Char)) (aborted : Bool) : Tunnel :=
  if aborted then { file, aborted : Tunnel }.failSetup setupCanceled else { file, abortable := true }

inductive TunnelEvent
  | abort
  | hostKey (key : Bytes)
  | ready
  | bound
  | listening
  | serverError (message : String)
  | error (message level : String)
  | close
  /-- The caller's `close()`. -/
  | release

/-- The SSH client asks for the host key once, is ready only if it was accepted,
and emits "close" once; a client that was destroyed does neither of the first two. -/
def tunnelStep (o : TunnelOptions) (s : Tunnel) : TunnelEvent → Option Tunnel
  | .abort =>
    if s.aborted then none
    else some (if s.abortable then { s with aborted := true }.failSetup setupCanceled else { s with aborted := true })
  | .hostKey key => if s.verified = none ∧ s.destroyed = false then some (s.hostKey o key) else none
  | .ready =>
    if s.verified = some true ∧ s.ready = false ∧ s.destroyed = false then
      some { s with ready := true, server := .opening }
    else none
  | .bound => if s.server = .opening then some { s with server := .bound } else none
  | .listening => if s.server = .bound then some { s with server := .listening }.listening else none
  | .serverError message =>
    if s.server = .absent then none
    else some ({ s with server := s.server.fail }.failSetup (TypeScript.serverError message))
  | .error message level => some (s.failSetup (s.clientError message level))
  | .close =>
    if s.closeSeen then none
    else some ({ s with closeSeen := true, sshClosed := true, waiting := false }.failSetup s.clientClosed)
  | .release =>
    if .ok () ∈ s.outcomes ∧ s.released = false then
      some { s with released := true, server := s.server.close, waiting := !s.sshClosed }
    else none

/-! ### The invariant -/

/-- What the caller may be told of a refused host key. -/
def Refusal (o : TunnelOptions) (text : String) : Prop :=
  ∃ key, let check : HostCheck := { host := o.host, port := o.sshPort, key, trust := o.trustOnFirstUse }
    text = (unknownHost o.knownHostsPath .tunnel check).text ∨ text = (keyMismatch o.knownHostsPath .tunnel check).text

structure TunnelCore (o : TunnelOptions) (file : Option (List Char)) (s : Tunnel) : Prop where
  unsettled : s.settled = false →
    s.outcomes = [] ∧ s.abortable = true ∧ s.destroyed = false ∧ s.server ≠ .listening
  settled : s.settled = true → s.abortable = false ∧ ∃ r, s.outcomes = [r]
  success : .ok () ∈ s.outcomes →
    s.verified = some true ∧ s.destroyed = false ∧ (s.released = false → s.server = .listening)
  failure : ∀ e, .error e ∈ s.outcomes → s.destroyed = true ∧ s.server ≠ .listening ∧
    (s.verified = some false → e = setupCanceled ∨ e = { kind := .signerUnavailable, text := s.hostKeyError })
  started : s.server ≠ .absent → s.ready = true
  ready : s.ready = true → s.verified = some true
  /-- The file is written only for a key that was accepted. -/
  file : s.file = file ∨ s.verified = some true
  refused : s.verified = some false → s.hostKeyError ≠ "" ∧ Refusal o s.hostKeyError
  alive : s.sshClosed = false → s.closeSeen = false
  waiting : s.waiting = true → s.sshClosed = false ∧ .ok () ∈ s.outcomes

structure TunnelInv (o : TunnelOptions) (file : Option (List Char)) (s : Tunnel) : Prop
    extends TunnelCore o file s where
  /-- Neither the signal nor the client goes unheard. -/
  heard : s.aborted = true ∨ s.closeSeen = true → s.settled = true

section Keeping

variable {o : TunnelOptions} {file : Option (List Char)} {s s' : Tunnel}

theorem ServerState.close_ne_listening (server : ServerState) : server.close ≠ .listening := by
  cases server <;> decide

theorem ServerState.fail_listening {server : ServerState} : server.fail = .listening ↔ server = .listening := by
  cases server <;> decide

@[simp] theorem failSetup_settled (s : Tunnel) (error : SdkError) : (s.failSetup error).settled = true := by
  rw [Tunnel.failSetup]
  split <;> trivial

/-- A failure settles what is not settled yet. -/
theorem TunnelCore.failSetup (h : TunnelCore o file s) {error : SdkError}
    (hrefused : s.verified = some false →
      error = setupCanceled ∨ error = { kind := .signerUnavailable, text := s.hostKeyError }) :
    TunnelInv o file (s.failSetup error) := by
  refine { toTunnelCore := ?_, heard := fun _ => failSetup_settled s error }
  cases hsettled : s.settled with
  | true =>
    rw [Tunnel.failSetup, if_pos hsettled]
    exact h
  | false =>
    obtain ⟨houtcomes, -, -, -⟩ := h.unsettled hsettled
    have hnotWaiting : s.waiting ≠ true := fun hwaiting => by
      have := (h.waiting hwaiting).2
      rw [houtcomes] at this
      cases this
    rw [Tunnel.failSetup, if_neg (by simp [hsettled])]
    exact { h with
      unsettled := nofun
      settled := fun _ => ⟨rfl, .error error, by rw [houtcomes]; rfl⟩
      success := by simp [houtcomes]
      failure := by
        intro e he
        obtain rfl : e = error := by simpa [houtcomes] using he
        exact ⟨rfl, s.server.close_ne_listening, hrefused⟩
      started := fun hserver => h.started fun habsent => hserver (by rw [habsent]; rfl)
      alive := nofun
      waiting := fun hwaiting => absurd hwaiting hnotWaiting }

theorem hostVerifier_refuses {path : String} {caller : HostCaller} {c : HostCheck} {e : SdkError}
    {file' : Option (List Char)} (h : hostOutcome (hostVerifier path caller c) file = (.error e, file')) :
    file' = file ∧ (e = unknownHost path caller c ∨ e = keyMismatch path caller c) := by
  cases hload : loadKnownHostKey file c.host c.port with
  | none =>
    simp only [hostVerifier, Bind.bind, query, Prog.bind, hostOutcome, hload] at h
    split at h
    · cases h
    · cases h
      exact ⟨rfl, Or.inl rfl⟩
  | some storedKey =>
    simp only [hostVerifier, Bind.bind, query, Prog.bind, hostOutcome, hload] at h
    split at h
    · cases h
    · cases h
      exact ⟨rfl, Or.inr rfl⟩

theorem refusal_text {path : String} {caller : HostCaller} {c : HostCheck} {e : SdkError}
    (h : e = unknownHost path caller c ∨ e = keyMismatch path caller c) : e.text ≠ "" := by
  intro hempty
  rcases h with rfl | rfl
  · have hparts := congrArg String.toList hempty
    simp [unknownHost, String.toList_append] at hparts
    exact absurd hparts.1 (by decide)
  · have hparts := congrArg String.toList hempty
    simp [keyMismatch, String.toList_append] at hparts
    exact absurd hparts.1 (by decide)

theorem TunnelInv.hostKey (h : TunnelInv o file s) (hfirst : s.verified = none) (halive : s.destroyed = false)
    (key : Bytes) : TunnelInv o file (s.hostKey o key) := by
  have hunready : s.ready ≠ true := fun hready => by
    have := h.ready hready
    rw [hfirst] at this
    cases this
  have hunsuccessful : .ok () ∉ s.outcomes := fun hok => by
    have := (h.success hok).1
    rw [hfirst] at this
    cases this
  have hunfailed : ∀ e, .error e ∉ s.outcomes := fun e he => by
    have := (h.failure e he).1
    rw [halive] at this
    cases this
  rw [Tunnel.hostKey]
  split
  · exact { h with
      success := fun hok => absurd hok hunsuccessful
      failure := fun e he => absurd he (hunfailed e)
      ready := fun _ => rfl
      file := Or.inr rfl
      refused := nofun }
  · rename_i e file' houtcome
    obtain ⟨hfile, htext⟩ := hostVerifier_refuses houtcome
    exact { h with
      success := fun hok => absurd hok hunsuccessful
      failure := fun e he => absurd he (hunfailed e)
      ready := fun hready => absurd hready hunready
      file := Or.inl (hfile.trans (h.file.resolve_right (by simp [hfirst])))
      refused := fun _ =>
        ⟨refusal_text htext, key, htext.imp (congrArg SdkError.text) (congrArg SdkError.text)⟩ }

/-- The promise is resolved by a server that listens, and a server that comes up too late goes down again. -/
theorem TunnelInv.listening (h : TunnelInv o file s) (hbound : s.server = .bound) :
    TunnelInv o file { s with server := .listening }.listening := by
  have hready : s.ready = true := h.started (by simp [hbound])
  have hverified := h.ready hready
  rcases Bool.eq_false_or_eq_true s.settled with hsettled | hsettled
  · have hdown : { s with server := .listening }.listening = { s with server := .closed } := if_pos hsettled
    rw [hdown]
    exact { h with
      unsettled := fun hpending => absurd (hsettled.symm.trans hpending) nofun
      success := fun hok => ⟨hverified, (h.success hok).2.1, fun hkept => by
        have := (h.success hok).2.2 hkept
        rw [hbound] at this
        cases this⟩
      failure := fun e he => ⟨(h.failure e he).1, nofun, (h.failure e he).2.2⟩
      started := fun _ => hready }
  · obtain ⟨houtcomes, -, halive, -⟩ := h.unsettled hsettled
    rw [Tunnel.listening, if_neg (by simp [hsettled])]
    exact { h with
      unsettled := nofun
      settled := fun _ => ⟨rfl, .ok (), by rw [houtcomes]; rfl⟩
      success := fun _ => ⟨hverified, halive, fun _ => rfl⟩
      failure := by simp [houtcomes]
      started := fun _ => hready
      waiting := fun hwaiting => by
        have := (h.waiting hwaiting).2
        rw [houtcomes] at this
        cases this
      heard := fun _ => rfl }

/-- What the client says of an error where the host key was refused. -/
theorem hostKey_told (h : TunnelCore o file s) (message level : String) (hrefused : s.verified = some false) :
    s.clientError message level = { kind := .signerUnavailable, text := s.hostKeyError } ∧
      s.clientClosed = { kind := .signerUnavailable, text := s.hostKeyError } := by
  have hnonempty := (h.refused hrefused).1
  simp [Tunnel.clientError, Tunnel.clientClosed, orText, hnonempty]

/-- **Every callback keeps the invariant.** -/
theorem TunnelInv.step (h : TunnelInv o file s) {e : TunnelEvent} (hs : tunnelStep o s e = some s') :
    TunnelInv o file s' := by
  cases e with
  | abort =>
    simp only [tunnelStep, Option.ite_none_left_eq_some, Option.some.injEq] at hs
    obtain ⟨-, rfl⟩ := hs
    have hcore : TunnelCore o file { s with aborted := true } := { h with }
    split
    · exact hcore.failSetup fun _ => Or.inl rfl
    · rename_i hdeaf
      have hsettled : s.settled = true := by
        by_contra hpending
        exact hdeaf (h.unsettled (by simpa using hpending)).2.1
      exact { hcore with heard := fun _ => hsettled }
  | hostKey key =>
    simp only [tunnelStep, Option.ite_none_right_eq_some, Option.some.injEq] at hs
    obtain ⟨⟨hfirst, halive⟩, rfl⟩ := hs
    exact h.hostKey hfirst halive key
  | ready =>
    simp only [tunnelStep, Option.ite_none_right_eq_some, Option.some.injEq] at hs
    obtain ⟨⟨hverified, hunready, halive⟩, rfl⟩ := hs
    have habsent : s.server = .absent := by
      by_contra hserver
      exact absurd (hunready.symm.trans (h.started hserver)) nofun
    exact { h with
      unsettled := fun hpending =>
        ⟨(h.unsettled hpending).1, (h.unsettled hpending).2.1, halive, nofun⟩
      success := fun hok => ⟨hverified, halive, fun hkept => by
        have := (h.success hok).2.2 hkept
        rw [habsent] at this
        cases this⟩
      failure := fun e he => ⟨(h.failure e he).1, nofun, (h.failure e he).2.2⟩
      started := fun _ => rfl
      ready := fun _ => hverified }
  | bound =>
    simp only [tunnelStep, Option.ite_none_right_eq_some, Option.some.injEq] at hs
    obtain ⟨hopening, rfl⟩ := hs
    exact { h with
      unsettled := fun hpending =>
        ⟨(h.unsettled hpending).1, (h.unsettled hpending).2.1, (h.unsettled hpending).2.2.1, nofun⟩
      success := fun hok => ⟨(h.success hok).1, (h.success hok).2.1, fun hkept => by
        have := (h.success hok).2.2 hkept
        rw [hopening] at this
        cases this⟩
      failure := fun e he => ⟨(h.failure e he).1, nofun, (h.failure e he).2.2⟩
      started := fun _ => h.started (by simp [hopening]) }
  | listening =>
    simp only [tunnelStep, Option.ite_none_right_eq_some, Option.some.injEq] at hs
    obtain ⟨hbound, rfl⟩ := hs
    exact h.listening hbound
  | serverError message =>
    simp only [tunnelStep, Option.ite_none_left_eq_some, Option.some.injEq] at hs
    obtain ⟨hstarted, rfl⟩ := hs
    have hverified := h.ready (h.started hstarted)
    have hcore : TunnelCore o file { s with server := s.server.fail } := { h with
      unsettled := fun hpending =>
        ⟨(h.unsettled hpending).1, (h.unsettled hpending).2.1, (h.unsettled hpending).2.2.1,
          mt ServerState.fail_listening.mp (h.unsettled hpending).2.2.2⟩
      success := fun hok =>
        ⟨(h.success hok).1, (h.success hok).2.1, fun hkept => ServerState.fail_listening.mpr ((h.success hok).2.2 hkept)⟩
      failure := fun e he =>
        ⟨(h.failure e he).1, mt ServerState.fail_listening.mp (h.failure e he).2.1, (h.failure e he).2.2⟩
      started := fun _ => h.started hstarted }
    exact hcore.failSetup fun hrefused => absurd (hverified.symm.trans hrefused) nofun
  | error message level =>
    cases hs
    exact h.toTunnelCore.failSetup fun hrefused => Or.inr (hostKey_told h.toTunnelCore message level hrefused).1
  | close =>
    simp only [tunnelStep, Option.ite_none_left_eq_some, Option.some.injEq] at hs
    obtain ⟨-, rfl⟩ := hs
    have hcore : TunnelCore o file { s with closeSeen := true, sshClosed := true, waiting := false } :=
      { h with alive := nofun, waiting := nofun }
    exact hcore.failSetup fun hrefused => Or.inr (hostKey_told h.toTunnelCore "" "" hrefused).2
  | release =>
    simp only [tunnelStep, Option.ite_none_right_eq_some, Option.some.injEq] at hs
    obtain ⟨⟨hok, -⟩, rfl⟩ := hs
    have hsettled : s.settled = true := by
      by_contra hpending
      rw [(h.unsettled (by simpa using hpending)).1] at hok
      cases hok
    obtain ⟨hverified, halive, -⟩ := h.success hok
    exact { h with
      unsettled := fun hpending => absurd (hsettled.symm.trans hpending) nofun
      success := fun _ => ⟨hverified, halive, nofun⟩
      failure := fun e he => ⟨(h.failure e he).1, s.server.close_ne_listening, (h.failure e he).2.2⟩
      started := fun hserver => h.started fun habsent => hserver (by rw [habsent]; rfl)
      waiting := fun hwaiting => ⟨by simpa using hwaiting, hok⟩ }

theorem tunnelInv_connect (aborted : Bool) : TunnelInv o file (Tunnel.connect file aborted) := by
  cases aborted with
  | false => exact { toTunnelCore := by constructor <;> simp [Tunnel.connect], heard := by simp [Tunnel.connect] }
  | true =>
    have hcanceled : Tunnel.connect file true =
        { file, aborted := true, settled := true, sshClosed := true, destroyed := true,
          outcomes := [.error setupCanceled] } := rfl
    rw [hcanceled]
    exact { toTunnelCore := by constructor <;> simp, heard := fun _ => rfl }

/-- **The promise of the tunnel.** After every sequence of callbacks: it was
settled at most once, and was settled if the signal was aborted or the
connection closed. If it was resolved, the host key was accepted, the client is
kept and the server listens until the caller closes the tunnel. If it was
rejected, the client is destroyed and no server listens; a host key that was
refused is what the caller is told, unless it canceled, and is not stored. In
either case the signal has no listener left, and `close` never waits for an
event that has already been. -/
theorem tunnel_settles {aborted : Bool} {es : List TunnelEvent}
    (hrun : react (tunnelStep o) (Tunnel.connect file aborted) es = some s) :
    (s.outcomes = [] ∧ s.aborted = false ∧ s.closeSeen = false ∨ s.abortable = false ∧ ∃ r, s.outcomes = [r]) ∧
      (s.outcomes = [.ok ()] → s.verified = some true ∧ s.destroyed = false ∧
        (s.released = false → s.server = .listening)) ∧
      (∀ e, s.outcomes = [.error e] → s.destroyed = true ∧ s.server ≠ .listening ∧
        (s.verified = some false → s.file = file ∧
          (e = setupCanceled ∨ e.kind = .signerUnavailable ∧ Refusal o e.text))) ∧
      (s.waiting = true → s.closeSeen = false) := by
  have h : TunnelInv o file s := react_keeps (fun _ _ _ h hs => h.step hs) (tunnelInv_connect aborted) hrun
  refine ⟨?_, fun hok => h.success (by simp [hok]), fun e he => ?_, fun hwaiting => h.alive (h.waiting hwaiting).1⟩
  · rcases Bool.eq_false_or_eq_true s.settled with hsettled | hpending
    · exact Or.inr (h.settled hsettled)
    · have hunheard := mt h.heard (by simp [hpending])
      exact Or.inl ⟨(h.unsettled hpending).1, by simpa using not_or.mp hunheard⟩
  · obtain ⟨hdestroyed, hserver, htold⟩ := h.failure e (by simp [he])
    refine ⟨hdestroyed, hserver, fun hrefused => ⟨h.file.resolve_right (by simp [hrefused]), ?_⟩⟩
    refine (htold hrefused).imp_right fun hkey => ?_
    subst hkey
    exact ⟨rfl, (h.refused hrefused).2⟩

end Keeping

namespace Demo

def tunnelOptions : TunnelOptions where
  host := "signer.example".toList
  sshPort := 1127
  knownHostsPath := "known_hosts"
  trustOnFirstUse := true

/-- The signer goes away after the local server was asked to listen; the server comes up all the same. -/
def lateServer : List TunnelEvent := [.hostKey [0, 1], .ready, .error "read ECONNRESET" "", .close, .bound, .listening]

theorem tunnel_settles_late : ∃ s,
    react (tunnelStep tunnelOptions) (Tunnel.connect none false) lateServer = some s ∧
      s.outcomes = [.error { kind := .signerUnavailable, text := "SSH connection failed: read ECONNRESET" }] ∧
        s.destroyed = true ∧ s.server ≠ .listening := by
  obtain ⟨s, hrun, houtcomes⟩ : ∃ s,
      react (tunnelStep tunnelOptions) (Tunnel.connect none false) lateServer = some s ∧
        s.outcomes = [.error { kind := .signerUnavailable, text := "SSH connection failed: read ECONNRESET" }] :=
    ⟨_, rfl, rfl⟩
  obtain ⟨-, -, hrejected, -⟩ := tunnel_settles hrun
  exact ⟨s, hrun, houtcomes, (hrejected _ houtcomes).1, (hrejected _ houtcomes).2.1⟩

end Demo

end TypeScript

end AplaneSdk
