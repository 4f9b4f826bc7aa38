/-
# Trusting the host of the signer

A connection shows a host key before anything is sent. A host that is in the
known_hosts file is compared with its key there; an unknown one is refused,
or, where the caller trusts first use, written into the file. TypeScript reads
the file when the key comes and appends a line; Go reads it before it dials;
Python reads it when the key comes and writes it anew. In each SDK a host is
only ever accepted with one key, over any number of connections in a row.

Key definitions: `HostFileOp`, `HostFlow`, `TypeScript.hostVerifier`,
`Go.hostVerifier`, `Python.verifyHostKey`, `Language.hostVerifier`,
`Language.connections`, `Language.pins`.
Key theorems: `formatHostEntry_inj`, `load_append`, `verdict_eq_verify`,
`connections_eq`, `hostKeys_pinned`.
-/
import AplaneSdk.KnownHosts
import AplaneSdk.Registry
import AplaneSdk.Lib.Pinning

namespace AplaneSdk

open Interaction Interaction.Prog Lines

/-! ### The verifiers -/

/-- What a verifier does with the known_hosts file. -/
inductive HostFileOp
  | read
  | append (text : List Char)
  | write (text : List Char)
  deriving DecidableEq

/-- The file may be missing. -/
@[reducible] def HostFileOp.Ans : HostFileOp → Type
  | read => Option (List Char)
  | _ => Unit

abbrev hostFile : Iface := ⟨HostFileOp, HostFileOp.Ans⟩

abbrev HostFlow := Prog hostFile SdkError Unit

/-- A host and the key it shows. -/
structure HostCheck where
  host : List Char
  port : ℕ
  key : Bytes
  /-- `trustOnFirstUse`, `autoAddHost`. -/
  trust : Bool

def HostCheck.entry (c : HostCheck) : List Char := formatHostEntry c.host c.port

/-- `host:port`. -/
def dialAddress (host : List Char) (port : ℕ) : List Char := host ++ ':' :: (toString port).toList

def HostCheck.address (c : HostCheck) : List Char := dialAddress c.host c.port

namespace TypeScript

/-- The two callers of the verifier: the class of their errors, and what they
say of an unknown host. -/
inductive HostCaller
  | tunnel
  | enrollment

def HostCaller.kind : HostCaller → ErrKind
  | tunnel => .signerUnavailable
  | enrollment => .signer

def HostCaller.advice (path : String) : HostCaller → String
  | tunnel => "pass trustOnFirstUse: true for explicit first-use trust, " ++
      s!"or connect via apshell first to save the host key to {path}"
  | enrollment => s!"pass autoAddHost: true to trust on first use, or save the host key in {path}"

def unknownHost (path : String) (caller : HostCaller) (c : HostCheck) : SdkError where
  kind := caller.kind
  text := s!"Unknown SSH host key for {String.ofList c.entry}; {caller.advice path}"

def keyMismatch (path : String) (caller : HostCaller) (c : HostCheck) : SdkError where
  kind := caller.kind
  text := s!"SSH host key mismatch for {String.ofList c.entry} (possible MITM attack); " ++
    s!"remove the old key from {path} to connect"

/-- `hostVerifier`. The host key error is that of the connection. -/
def hostVerifier (path : String) (caller : HostCaller) (c : HostCheck) : HostFlow := do
  let file ← query (I := hostFile) .read
  match loadKnownHostKey file c.host c.port with
  | none =>
    if c.trust then
      query (I := hostFile) (.append (hostLine c.host c.port c.key ++ ['\n']))
    else
      throw (unknownHost path caller c)
  | some storedKey =>
    if storedKey = c.key then pure ()
    else throw (keyMismatch path caller c)

end TypeScript

namespace Go

/-- What the callback of `knownhosts.New` says of an address and a key: a
`KeyError` without wanted keys is `unknown`, with them `mismatch`. -/
inductive KeyCheck
  | known
  | unknown
  | mismatch
  | failed (why : String)
  deriving DecidableEq

/-- `golang.org/x/crypto/ssh/knownhosts`. -/
structure KnownHosts where
  new : List Char → Except String (List Char → Bytes → KeyCheck)
  line : List Char → Bytes → List Char

/-- The callback of a file; without a file every host is unknown. -/
def KnownHosts.callback (lib : KnownHosts) (path : String) (file : Option (List Char)) :
    Except SdkError (List Char → Bytes → KeyCheck) :=
  match file with
  | none => .ok fun _ _ => .unknown
  | some content => match lib.new content with
    | .error why => .error { text := s!"failed to load known_hosts {path}: {why}" }
    | .ok callback => .ok callback

def keyMismatch (path : String) (c : HostCheck) : SdkError where
  text := s!"SSH host key mismatch for {String.ofList c.address} (possible MITM attack); " ++
    s!"remove the old key from {path} to connect"

def unknownHost (path : String) (c : HostCheck) : SdkError where
  text := s!"unknown SSH host key for {String.ofList c.address}; pass TrustOnFirstUse for explicit " ++
    s!"first-use trust, or connect via apshell first to save the host key to {path}"

/-- `buildHostKeyCallback`, and the callback on the address that is dialled. -/
def hostVerifier (lib : KnownHosts) (path : String) (c : HostCheck) : HostFlow := do
  let file ← query (I := hostFile) .read
  let existing ← liftM (lib.callback path file)
  match existing c.address c.key with
  | .known => pure ()
  | .mismatch => throw (keyMismatch path c)
  | .failed why => throw { text := why }
  | .unknown =>
    if c.trust then
      query (I := hostFile) (.append (lib.line c.address c.key ++ ['\n']))
    else
      throw (unknownHost path c)

end Go

namespace Python

/-- `paramiko.HostKeys`: the keys of a host by the name of their type. -/
structure HostKeys (H : Type) where
  empty : H
  load : H → List Char → Except String H
  lookup : H → List Char → Option (List (List Char × Bytes))
  add : H → List Char → List Char → Bytes → H
  save : H → List Char

def HostKeys.ofFile {H : Type} (lib : HostKeys H) (file : Option (List Char)) : Except SdkError H :=
  match file with
  | none => .ok lib.empty
  | some content => match lib.load lib.empty content with
    | .error why => .error { text := why }
    | .ok hostKeys => .ok hostKeys

def keyMismatch (path : String) (c : HostCheck) : SdkError where
  text := s!"SSH host key mismatch for {String.ofList c.address} (possible MITM attack); " ++
    s!"remove the old key from {path} to connect"

def unknownHost (path : String) (c : HostCheck) : SdkError where
  text := s!"Unknown SSH host key for {String.ofList c.address}; " ++
    "pass trust_on_first_use=True for explicit first-use trust, " ++
    s!"or connect via apshell first to save the host key to {path}"

/-- `_verify_host_key`. -/
def verifyHostKey {H : Type} (lib : HostKeys H) (path : String) (c : HostCheck) : HostFlow := do
  let file ← query (I := hostFile) .read
  let hostKeys ← liftM (lib.ofFile file)
  match lib.lookup hostKeys c.entry with
  | some known =>
    if known.lookup (parseHostKeyType c.key) = some c.key then pure ()
    else throw (keyMismatch path c)
  | none =>
    if c.trust then
      query (I := hostFile) (.write (lib.save (lib.add hostKeys c.entry (parseHostKeyType c.key) c.key)))
    else
      throw (unknownHost path c)

end Python

/-- The packages the verifiers rest on, the path of the file, and who asks in
TypeScript. -/
structure HostKeyEnv (H : Type) where
  go : Go.KnownHosts
  python : Python.HostKeys H
  path : String
  caller : TypeScript.HostCaller

def Language.hostVerifier {H : Type} (env : HostKeyEnv H) (c : HostCheck) : Language → HostFlow
  | go => Go.hostVerifier env.go env.path c
  | python => Python.verifyHostKey env.python env.path c
  | typescript => TypeScript.hostVerifier env.path env.caller c

/-! ### Connections in a row -/

/-- The file after an operation. -/
def HostFileOp.leaves (file : Option (List Char)) : HostFileOp → Option (List Char)
  | read => file
  | append text => some (file.getD [] ++ text)
  | write text => some text

/-- What a verifier does to a file that nobody else uses. -/
def hostOutcome : HostFlow → Option (List Char) → Except SdkError Unit × Option (List Char)
  | done r, file => (r, file)
  | ask .read k, file => hostOutcome (k file) file
  | ask (.append text) k, file => hostOutcome (k ()) (HostFileOp.leaves file (.append text))
  | ask (.write text) k, file => hostOutcome (k ()) (HostFileOp.leaves file (.write text))

section Rows

variable {H : Type} (env : HostKeyEnv H)

/-- The verdict, and the file after it. -/
def Language.verdict (l : Language) (file : Option (List Char)) (c : HostCheck) : Bool × Option (List Char) :=
  ((hostOutcome (l.hostVerifier env c) file).1.isOk, (hostOutcome (l.hostVerifier env c) file).2)

/-- The checks that were accepted, one after the other, and the file at the end. -/
def Language.connections (l : Language) : Option (List Char) → List HostCheck → List HostCheck × Option (List Char)
  | file, [] => ([], file)
  | file, c :: cs =>
    let out := l.verdict env file c
    let rest := l.connections out.2 cs
    (if out.1 then c :: rest.1 else rest.1, rest.2)

/-- Whether the file by itself accepts the key. -/
def Language.accepts (l : Language) (file : Option (List Char)) (c : HostCheck) : Bool :=
  (l.verdict env file { c with trust := false }).1

end Rows

/-! ### What the packages promise -/

/-- A name, or an IPv4 address. -/
structure PlainHost (host : List Char) : Prop where
  ne_nil : host ≠ []
  chars : ∀ c ∈ host, c.isAlphanum = true ∨ c ∈ ['.', '-', '_']

structure HostCheck.Plain (c : HostCheck) : Prop where
  host : PlainHost c.host
  key : WireKey c.key

/-- What the callback of a file says. -/
def Go.KnownHosts.check (lib : Go.KnownHosts) (file : Option (List Char)) (host : List Char) (port : ℕ)
    (key : Bytes) : Go.KeyCheck :=
  match file with
  | none => .unknown
  | some content => match lib.new content with
    | .error why => .failed why
    | .ok callback => callback (dialAddress host port) key

/-- A file of whole lines that the package reads, and in which no key is revoked. -/
structure Go.KnownHosts.Reads (lib : Go.KnownHosts) (file : Option (List Char)) : Prop where
  ends : EndsBlank file
  checks : ∀ host port key, PlainHost host → ∀ why, lib.check file host port key ≠ .failed why

/-- A host is unknown whatever key it shows, and a line put behind the others
is about its address alone. -/
structure Go.KnownHosts.Lawful (lib : Go.KnownHosts) : Prop where
  unknown : ∀ {file host port key}, lib.Reads file → PlainHost host →
    lib.check file host port key = .unknown → ∀ key', lib.check file host port key' = .unknown
  reads : ∀ {file host port key}, lib.Reads file → PlainHost host → WireKey key →
    lib.Reads (Go.saveHostKey lib.line file (dialAddress host port) key)
  line : ∀ {file host port key}, lib.Reads file → PlainHost host → WireKey key →
    lib.check file host port key = .unknown →
      ∀ host' port' key', PlainHost host' →
        lib.check (Go.saveHostKey lib.line file (dialAddress host port) key) host' port' key' =
          if host' = host ∧ port' = port then
            if key' = key then .known else .mismatch
          else lib.check file host' port' key'

/-- The keys that are saved are loaded again. -/
structure Python.HostKeys.Lawful {H : Type} (lib : Python.HostKeys H) : Prop where
  saved : ∀ {file hostKeys host port key}, lib.ofFile file = .ok hostKeys → PlainHost host → WireKey key →
    lib.lookup hostKeys (formatHostEntry host port) = none →
      ∃ loaded, lib.load lib.empty
          (lib.save (lib.add hostKeys (formatHostEntry host port) (parseHostKeyType key) key)) = .ok loaded ∧
        lib.lookup loaded (formatHostEntry host port) = some [(parseHostKeyType key, key)] ∧
        ∀ entry, entry ≠ formatHostEntry host port → lib.lookup loaded entry = lib.lookup hostKeys entry

/-! ### What is saved stays -/

section Kept

variable {file : Option (List Char)} {host : List Char} {port : ℕ} {key : Bytes}

theorem PlainHost.not_mem (h : PlainHost host) {c : Char}
    (hc : c.isAlphanum = false ∧ c ∉ ['.', '-', '_']) : c ∉ host := by
  intro hmem
  rcases h.chars c hmem with halpha | hpunct
  · rw [hc.1] at halpha
    cases halpha
  · exact hc.2 hpunct

theorem digits_not_mem {c : Char} (hc : c.isDigit = false) (n : ℕ) : c ∉ (toString n).toList := by
  intro hmem
  have hdigits : (toString n).toList = Nat.toDigits 10 n := Nat.toList_repr
  rw [hdigits] at hmem
  have hdigit := Nat.isDigit_of_mem_toDigits (by decide) (by decide) hmem
  rw [hc] at hdigit
  cases hdigit

/-- No character of it is a blank or starts a comment. -/
theorem PlainHost.char_ok (h : PlainHost host) {c : Char} (hc : c ∈ host) :
    (!isWhiteSpace c && c != '#') = true := by
  have halias : aliasChar c = true := by
    rcases h.chars c hc with halpha | hpunct
    · simp [aliasChar, halpha]
    · simp only [List.mem_cons, List.not_mem_nil, or_false] at hpunct
      rcases hpunct with rfl | rfl | rfl <;> decide
  have hblank : isWhiteSpace c = false := blank_of_aliasChar .typescript c halias
  have hhash : c ≠ '#' := by
    rintro rfl
    exact absurd halias (by decide)
  simp [hblank, hhash]

theorem not_mem_formatHostEntry {c : Char} (hhost : c ∉ host) (hc : c ∉ ['[', ']', ':'])
    (hdigit : c.isDigit = false) (port : ℕ) : c ∉ formatHostEntry host port := by
  have hport := digits_not_mem hdigit port
  unfold formatHostEntry
  by_cases h22 : port = 22
  · rw [if_pos h22]
    exact hhost
  · rw [if_neg h22]
    simp only [List.mem_cons, List.not_mem_nil, or_false, not_or] at hc
    simp only [List.mem_append, List.mem_cons, not_or]
    exact ⟨⟨hc.1, hhost⟩, hc.2.1, hc.2.2, hport⟩

/-- The entry of a plain host is one field. -/
theorem PlainHost.oneField (h : PlainHost host) (port : ℕ) : OneField (formatHostEntry host port) := by
  refine ⟨not_mem_formatHostEntry (h.not_mem (by decide)) (by decide) (by decide) port,
    not_mem_formatHostEntry (h.not_mem (by decide)) (by decide) (by decide) port, ?_⟩
  obtain ⟨first, rest, rfl⟩ := List.exists_cons_of_ne_nil h.ne_nil
  unfold formatHostEntry
  by_cases h22 : port = 22
  · rw [if_pos h22]
    exact h.char_ok (List.mem_cons_self ..)
  · rw [if_neg h22]
    rfl

theorem formatHostEntry_inj (h : PlainHost host) {host' : List Char} (h' : PlainHost host') {port' : ℕ}
    (heq : formatHostEntry host port = formatHostEntry host' port') : host = host' ∧ port = port' := by
  have hbracket : ∀ {xs : List Char}, PlainHost xs → ∀ ys, xs ≠ '[' :: ys := by
    rintro xs hxs ys rfl
    exact hxs.not_mem (c := '[') (by decide) (List.mem_cons_self ..)
  unfold formatHostEntry at heq
  by_cases h22 : port = 22 <;> by_cases h22' : port' = 22
  · rw [if_pos h22, if_pos h22'] at heq
    exact ⟨heq, h22.trans h22'.symm⟩
  · rw [if_pos h22, if_neg h22'] at heq
    exact absurd heq (hbracket h _)
  · rw [if_neg h22, if_pos h22'] at heq
    exact absurd heq.symm (hbracket h' _)
  · rw [if_neg h22, if_neg h22'] at heq
    have hsplit : ∀ {xs : List Char} (n : ℕ), PlainHost xs →
        (xs ++ ']' :: ':' :: (toString n).toList).splitOn ']' = [xs, ':' :: (toString n).toList] := by
      intro xs n hxs
      have hrest : ']' ∉ ':' :: (toString n).toList := by
        rw [List.mem_cons, not_or]
        exact ⟨by decide, digits_not_mem (by decide) n⟩
      rw [List.splitOn_append_cons_self_of_not_mem (hxs.not_mem (by decide)), List.splitOn_eq_singleton hrest]
    have hparts : [host, ':' :: (toString port).toList] = [host', ':' :: (toString port').toList] := by
      have htail : host ++ ']' :: ':' :: (toString port).toList = host' ++ ']' :: ':' :: (toString port').toList :=
        (List.cons.inj heq).2
      rw [← hsplit port h, ← hsplit port' h', htail]
    simp only [List.cons.injEq, and_true, true_and] at hparts
    have hdigits : Nat.toDigits 10 port = Nat.toDigits 10 port' := by
      rw [← Nat.toList_repr, ← Nat.toList_repr]
      exact hparts.2
    have hport := congrArg (Nat.ofDigitChars 10 · 0) hdigits
    simp only [Nat.ofDigitChars_ten_toDigits] at hport
    exact ⟨hparts.1, hport⟩

/-- A file whose last line is blank keeps what was found in it. -/
theorem load_append (hend : EndsBlank file) (text : List Char) (h : loadKnownHostKey file host port = some key) :
    loadKnownHostKey (some (file.getD [] ++ text)) host port = some key := by
  have hopen : lineKey (formatHostEntry host port) (openLine file) = none :=
    lineKey_of_blank _ (List.all_eq_true.mp hend)
  rw [load_eq, hopen, Option.or_none] at h
  change (((file.getD [] ++ text).splitOn '\n').findSome? _) = _
  rw [splitOn_append, List.findSome?_append]
  change ((endedLines file).findSome? _).or _ = _
  rw [h, Option.some_or]

theorem endsBlank_append {text : List Char} (htext : text.getLast? = some '\n') :
    EndsBlank (some (file.getD [] ++ text)) := by
  obtain ⟨before, rfl⟩ := List.getLast?_eq_some_iff.mp htext
  have hopen : openLine (some (file.getD [] ++ (before ++ ['\n']))) = [] := by
    change lastPiece '\n' (file.getD [] ++ (before ++ ['\n'])) = []
    rw [← List.append_assoc, lastPiece_snoc]
  unfold EndsBlank
  rw [hopen]
  rfl

end Kept

/-! ### The file as a store of pins -/

section Pins

variable {H : Type} (env : HostKeyEnv H)

/-- What `paramiko` finds for an entry. -/
def Python.HostKeys.keysOf (lib : Python.HostKeys H) (file : Option (List Char)) (entry : List Char) :
    Option (List (List Char × Bytes)) :=
  match lib.ofFile file with
  | .error _ => some []
  | .ok hostKeys => lib.lookup hostKeys entry

def Python.HostKeys.saveHostKey (lib : Python.HostKeys H) (file : Option (List Char)) (host : List Char)
    (port : ℕ) (key : Bytes) : Option (List Char) :=
  match lib.ofFile file with
  | .error _ => file
  | .ok hostKeys =>
    some (lib.save (lib.add hostKeys (formatHostEntry host port) (parseHostKeyType key) key))

/-- A name is a host and a port. -/
def Language.pins : Language → Pinning.Store (Option (List Char)) (List Char × ℕ) Bytes
  | go =>
    { known := fun file n => env.go.check file n.1 n.2 [] != .unknown
      accepts := fun file n key => env.go.check file n.1 n.2 key == .known
      pin := fun file n key => Go.saveHostKey env.go.line file (dialAddress n.1 n.2) key }
  | python =>
    { known := fun file n => (env.python.keysOf file (formatHostEntry n.1 n.2)).isSome
      accepts := fun file n key => (env.python.keysOf file (formatHostEntry n.1 n.2)).any fun known =>
        known.lookup (parseHostKeyType key) == some key
      pin := fun file n key => env.python.saveHostKey file n.1 n.2 key }
  | typescript =>
    { known := fun file n => (loadKnownHostKey file n.1 n.2).isSome
      accepts := fun file n key => loadKnownHostKey file n.1 n.2 == some key
      pin := fun file n key => saveHostKey file n.1 n.2 key }

def HostCheck.attempt (c : HostCheck) : Pinning.Attempt (List Char × ℕ) Bytes where
  name := (c.host, c.port)
  key := c.key
  trust := c.trust

/-- The files a verifier can use. -/
def Language.Usable : Language → Option (List Char) → Prop
  | go => env.go.Reads
  | python => fun file => ∃ hostKeys, env.python.ofFile file = .ok hostKeys
  | typescript => EndsBlank

variable {env} {file : Option (List Char)} {host : List Char}

theorem typescript_verify (c : HostCheck) :
    Language.typescript.verdict env file c = (Language.typescript.pins env).verify file c.attempt := by
  have houtcome : hostOutcome (Language.typescript.hostVerifier env c) file =
      hostOutcome (match loadKnownHostKey file c.host c.port with
        | none =>
          if c.trust then query (I := hostFile) (.append (hostLine c.host c.port c.key ++ ['\n']))
          else throw (TypeScript.unknownHost env.path env.caller c)
        | some storedKey =>
          if storedKey = c.key then pure ()
          else throw (TypeScript.keyMismatch env.path env.caller c)) file := rfl
  unfold Language.verdict
  cases hload : loadKnownHostKey file c.host c.port with
  | none =>
    have hnew : (Language.typescript.pins env).known file c.attempt.name = false :=
      congrArg Option.isSome hload
    rw [houtcome, hload, Pinning.Store.verify_new hnew]
    cases htrust : c.trust <;> simp only [HostCheck.attempt, htrust] <;> rfl
  | some storedKey =>
    have hknown : (Language.typescript.pins env).known file c.attempt.name = true :=
      congrArg Option.isSome hload
    have haccepts : (Language.typescript.pins env).accepts file c.attempt.name c.attempt.key =
        (some storedKey == some c.key) := congrArg (· == some c.key) hload
    rw [houtcome, hload, Pinning.Store.verify_known hknown, haccepts]
    by_cases hkey : storedKey = c.key
    · simp only [hkey, if_true, beq_self_eq_true]
      rfl
    · have hne : (some storedKey == some c.key) = false := by simpa using hkey
      simp only [if_neg hkey, hne]
      rfl

theorem Go.KnownHosts.Reads.callback (hfile : env.go.Reads file) (hhost : PlainHost host) (path : String) :
    ∃ callback, env.go.callback path file = .ok callback ∧
      ∀ port key, callback (dialAddress host port) key = env.go.check file host port key := by
  have hchecks := hfile.checks host 22 [] hhost
  cases file with
  | none => exact ⟨_, rfl, fun _ _ => rfl⟩
  | some content =>
    cases hnew : env.go.new content with
    | error why =>
      refine absurd ?_ (hchecks why)
      simp only [Go.KnownHosts.check, hnew]
    | ok callback =>
      refine ⟨callback, ?_, fun port key => ?_⟩
      · simp only [Go.KnownHosts.callback, hnew]
      · simp only [Go.KnownHosts.check, hnew]

theorem go_verify (hlaw : env.go.Lawful) (hfile : env.go.Reads file) (c : HostCheck) (hc : PlainHost c.host) :
    Language.go.verdict env file c = (Language.go.pins env).verify file c.attempt := by
  obtain ⟨callback, hcallback, hsays⟩ := hfile.callback hc env.path
  have houtcome : hostOutcome (Language.go.hostVerifier env c) file =
      hostOutcome (match env.go.check file c.host c.port c.key with
        | .known => pure ()
        | .mismatch => throw (Go.keyMismatch env.path c)
        | .failed why => throw { text := why }
        | .unknown =>
          if c.trust then query (I := hostFile) (.append (env.go.line c.address c.key ++ ['\n']))
          else throw (Go.unknownHost env.path c)) file := by
    rw [← hsays]
    change hostOutcome ((liftM (env.go.callback env.path file) : Prog hostFile SdkError _) >>= _) file = _
    rw [hcallback]
    rfl
  unfold Language.verdict
  have hknown (hne : env.go.check file c.host c.port c.key ≠ .unknown) :
      (Language.go.pins env).known file c.attempt.name = true := by
    refine bne_iff_ne.mpr fun hnone => hne ?_
    exact hlaw.unknown hfile hc hnone c.key
  have haccepts : (Language.go.pins env).accepts file c.attempt.name c.attempt.key =
      (env.go.check file c.host c.port c.key == .known) := rfl
  cases hcheck : env.go.check file c.host c.port c.key with
  | failed why => exact absurd hcheck (hfile.checks _ _ _ hc why)
  | unknown =>
    have hnew : (Language.go.pins env).known file c.attempt.name = false := by
      have hany := hlaw.unknown hfile hc hcheck []
      exact bne_eq_false_iff_eq.mpr hany
    rw [houtcome, hcheck, Pinning.Store.verify_new hnew]
    cases htrust : c.trust <;> simp only [HostCheck.attempt, htrust] <;> rfl
  | known =>
    rw [houtcome, hcheck, Pinning.Store.verify_known (hknown (by simp [hcheck])), haccepts, hcheck]
    rfl
  | mismatch =>
    rw [houtcome, hcheck, Pinning.Store.verify_known (hknown (by simp [hcheck])), haccepts, hcheck]
    rfl

theorem python_verify (hfile : Language.python.Usable env file) (c : HostCheck) :
    Language.python.verdict env file c = (Language.python.pins env).verify file c.attempt := by
  obtain ⟨hostKeys, hload⟩ := hfile
  have houtcome : hostOutcome (Language.python.hostVerifier env c) file =
      hostOutcome (match env.python.lookup hostKeys c.entry with
        | some known =>
          if known.lookup (parseHostKeyType c.key) = some c.key then pure ()
          else throw (Python.keyMismatch env.path c)
        | none =>
          if c.trust then
            query (I := hostFile)
              (.write (env.python.save (env.python.add hostKeys c.entry (parseHostKeyType c.key) c.key)))
          else throw (Python.unknownHost env.path c)) file := by
    change hostOutcome ((liftM (env.python.ofFile file) : Prog hostFile SdkError _) >>= _) file = _
    rw [hload]
    rfl
  have hkeys : env.python.keysOf file c.entry = env.python.lookup hostKeys c.entry := by
    simp only [Python.HostKeys.keysOf, hload]
  unfold Language.verdict
  cases hlookup : env.python.lookup hostKeys c.entry with
  | none =>
    have hnew : (Language.python.pins env).known file c.attempt.name = false :=
      congrArg Option.isSome (hkeys.trans hlookup)
    have hpin : (Language.python.pins env).pin file c.attempt.name c.attempt.key =
        some (env.python.save (env.python.add hostKeys c.entry (parseHostKeyType c.key) c.key)) := by
      change env.python.saveHostKey file c.host c.port c.key = _
      simp only [Python.HostKeys.saveHostKey, hload]
      rfl
    rw [houtcome, hlookup, Pinning.Store.verify_new hnew, hpin]
    cases htrust : c.trust <;> simp only [HostCheck.attempt, htrust] <;> rfl
  | some known =>
    have hknown : (Language.python.pins env).known file c.attempt.name = true :=
      congrArg Option.isSome (hkeys.trans hlookup)
    have haccepts : (Language.python.pins env).accepts file c.attempt.name c.attempt.key =
        (known.lookup (parseHostKeyType c.key) == some c.key) := by
      change (env.python.keysOf file c.entry).any _ = _
      rw [hkeys, hlookup]
      rfl
    rw [houtcome, hlookup, Pinning.Store.verify_known hknown, haccepts]
    by_cases hkey : known.lookup (parseHostKeyType c.key) = some c.key
    · simp only [hkey, if_true, beq_self_eq_true]
      rfl
    · have hne : (known.lookup (parseHostKeyType c.key) == some c.key) = false := by simpa using hkey
      simp only [if_neg hkey, hne]
      rfl

theorem typescript_lawful :
    (Language.typescript.pins env).Lawful (Language.typescript.Usable env) (fun n => PlainHost n.1) WireKey := by
  have hround : ∀ {file : Option (List Char)} {n : List Char × ℕ} {key : Bytes}, EndsBlank file →
      PlainHost n.1 → WireKey key → (Language.typescript.pins env).known file n = false →
        RoundTrips file (saveHostKey file n.1 n.2 key) n.1 n.2 key := by
    intro file n key hend hhost hkey hnew
    exact roundTrips_of_ownLine (Option.isSome_eq_false_iff.mp hnew |> Option.isNone_iff_eq_none.mp)
      (hhost.oneField n.2) hend hkey.ne_nil hkey.toTypeField
  constructor
  · intro file n key _ _ _ _
    exact endsBlank_append (List.getLast?_concat ..)
  · intro file n key hend hhost hkey hnew
    have hfound := (hround hend hhost hkey hnew).found
    refine ⟨congrArg Option.isSome hfound, fun key' => ?_⟩
    change (loadKnownHostKey (saveHostKey file n.1 n.2 key) n.1 n.2 == some key') = true ↔ _
    rw [hfound, beq_iff_eq, Option.some.injEq, eq_comm]
  · intro file n key n' hend hhost hkey hnew hhost' hne
    have hentry : formatHostEntry n'.1 n'.2 ≠ formatHostEntry n.1 n.2 := by
      intro heq
      obtain ⟨hname, hport⟩ := formatHostEntry_inj hhost' hhost heq
      exact hne (Prod.ext hname hport)
    have hother := (hround hend hhost hkey hnew).others n'.1 n'.2 hentry
    exact ⟨congrArg Option.isSome hother, fun key' => congrArg (· == some key') hother⟩

theorem go_lawful (hlaw : env.go.Lawful) :
    (Language.go.pins env).Lawful (Language.go.Usable env) (fun n => PlainHost n.1) WireKey := by
  have hline : ∀ {file : Option (List Char)} {n n' : List Char × ℕ} {key : Bytes}, env.go.Reads file →
      PlainHost n.1 → WireKey key → (Language.go.pins env).known file n = false → PlainHost n'.1 →
        ∀ key', env.go.check (Go.saveHostKey env.go.line file (dialAddress n.1 n.2) key) n'.1 n'.2 key' =
          if n'.1 = n.1 ∧ n'.2 = n.2 then if key' = key then .known else .mismatch
          else env.go.check file n'.1 n'.2 key' := by
    intro file n n' key hfile hhost hkey hnew hhost' key'
    have hunknown := hlaw.unknown hfile hhost (bne_eq_false_iff_eq.mp hnew) key
    exact hlaw.line hfile hhost hkey hunknown n'.1 n'.2 key' hhost'
  constructor
  · intro file n key hfile hhost hkey _
    exact hlaw.reads hfile hhost hkey
  · intro file n key hfile hhost hkey hnew
    have hown := hline hfile hhost hkey hnew hhost
    refine ⟨?_, fun key' => ?_⟩
    · change (env.go.check (Go.saveHostKey env.go.line file (dialAddress n.1 n.2) key) n.1 n.2 [] != .unknown) = true
      rw [hown, if_pos ⟨rfl, rfl⟩]
      by_cases hkey : [] = key
      · rw [if_pos hkey]
        rfl
      · rw [if_neg hkey]
        rfl
    · change (env.go.check (Go.saveHostKey env.go.line file (dialAddress n.1 n.2) key) n.1 n.2 key' == .known) =
        true ↔ _
      rw [hown, if_pos ⟨rfl, rfl⟩]
      by_cases hkey : key' = key
      · simp [hkey]
      · simp [hkey]
  · intro file n key n' hfile hhost hkey hnew hhost' hne
    have hother := hline hfile hhost hkey hnew hhost'
    simp only [if_neg fun heq : n'.1 = n.1 ∧ n'.2 = n.2 => hne (Prod.ext heq.1 heq.2)] at hother
    exact ⟨congrArg (fun check : Go.KeyCheck => check != .unknown) (hother []),
      fun key' => congrArg (fun check : Go.KeyCheck => check == .known) (hother key')⟩

theorem python_lawful (hlaw : env.python.Lawful) :
    (Language.python.pins env).Lawful (Language.python.Usable env) (fun n => PlainHost n.1) WireKey := by
  have hsaved : ∀ {file : Option (List Char)} {n : List Char × ℕ} {key : Bytes},
      Language.python.Usable env file → PlainHost n.1 → WireKey key →
        (Language.python.pins env).known file n = false →
        Language.python.Usable env (env.python.saveHostKey file n.1 n.2 key) ∧
          env.python.keysOf (env.python.saveHostKey file n.1 n.2 key) (formatHostEntry n.1 n.2) =
            some [(parseHostKeyType key, key)] ∧
          ∀ entry, entry ≠ formatHostEntry n.1 n.2 →
            env.python.keysOf (env.python.saveHostKey file n.1 n.2 key) entry = env.python.keysOf file entry := by
    intro file n key hfile hhost hkey hnew
    obtain ⟨hostKeys, hload⟩ := hfile
    have hnone : env.python.lookup hostKeys (formatHostEntry n.1 n.2) = none := by
      have hkeys : env.python.keysOf file (formatHostEntry n.1 n.2) = none :=
        Option.isSome_eq_false_iff.mp hnew |> Option.isNone_iff_eq_none.mp
      simpa only [Python.HostKeys.keysOf, hload] using hkeys
    obtain ⟨loaded, hloaded, hown, hothers⟩ := hlaw.saved hload hhost hkey hnone
    have hsave : env.python.ofFile (env.python.saveHostKey file n.1 n.2 key) = .ok loaded := by
      have hwritten : env.python.saveHostKey file n.1 n.2 key =
          some (env.python.save
            (env.python.add hostKeys (formatHostEntry n.1 n.2) (parseHostKeyType key) key)) := by
        simp only [Python.HostKeys.saveHostKey, hload]
      rw [hwritten]
      simp only [Python.HostKeys.ofFile, hloaded]
    refine ⟨⟨loaded, hsave⟩, ?_, fun entry hentry => ?_⟩
    · simp only [Python.HostKeys.keysOf, hsave]
      exact hown
    · simp only [Python.HostKeys.keysOf, hsave, hload]
      exact hothers entry hentry
  constructor
  · intro file n key hfile hhost hkey hnew
    exact (hsaved hfile hhost hkey hnew).1
  · intro file n key hfile hhost hkey hnew
    obtain ⟨-, hown, -⟩ := hsaved hfile hhost hkey hnew
    refine ⟨congrArg Option.isSome hown, fun key' => ?_⟩
    change (env.python.keysOf (env.python.saveHostKey file n.1 n.2 key) (formatHostEntry n.1 n.2)).any
      (fun known => known.lookup (parseHostKeyType key') == some key') = true ↔ _
    rw [hown, Option.any_some, beq_iff_eq, List.lookup_cons, List.lookup_nil]
    by_cases htype : parseHostKeyType key' = parseHostKeyType key
    · simp [htype, eq_comm]
    · have hne : key' ≠ key := fun heq => htype (congrArg parseHostKeyType heq)
      have htype' : (parseHostKeyType key' == parseHostKeyType key) = false := by simpa using htype
      simp [htype', hne]
  · intro file n key n' hfile hhost hkey hnew hhost' hne
    have hentry : formatHostEntry n'.1 n'.2 ≠ formatHostEntry n.1 n.2 := by
      intro heq
      obtain ⟨hname, hport⟩ := formatHostEntry_inj hhost' hhost heq
      exact hne (Prod.ext hname hport)
    have hother := (hsaved hfile hhost hkey hnew).2.2 _ hentry
    exact ⟨congrArg Option.isSome hother, fun key' => congrArg (Option.any _) hother⟩

variable {l : Language} {c : HostCheck} {cs : List HostCheck}

theorem pins_lawful (hgo : env.go.Lawful) (hpython : env.python.Lawful) (l : Language) :
    (l.pins env).Lawful (l.Usable env) (fun n => PlainHost n.1) WireKey := by
  cases l
  · exact go_lawful hgo
  · exact python_lawful hpython
  · exact typescript_lawful

theorem verdict_eq_verify (hgo : env.go.Lawful) (hfile : l.Usable env file) (hc : PlainHost c.host) :
    l.verdict env file c = (l.pins env).verify file c.attempt := by
  cases l
  · exact go_verify hgo hfile c hc
  · exact python_verify hfile c
  · exact typescript_verify c

theorem accepts_eq (hgo : env.go.Lawful) (hfile : l.Usable env file) (hc : PlainHost c.host) :
    l.accepts env file c = true ↔
      (l.pins env).known file (c.host, c.port) = true ∧
        (l.pins env).accepts file (c.host, c.port) c.key = true := by
  unfold Language.accepts
  rw [verdict_eq_verify hgo hfile (c := { c with trust := false }) hc]
  cases hknown : (l.pins env).known file (c.host, c.port) with
  | true =>
    have hknown' : (l.pins env).known file ({ c with trust := false } : HostCheck).attempt.name = true := hknown
    rw [Pinning.Store.verify_known hknown']
    simp only [true_and]
    exact Iff.rfl
  | false =>
    have hnew : (l.pins env).known file ({ c with trust := false } : HostCheck).attempt.name = false := hknown
    rw [Pinning.Store.verify_new hnew]
    simp [HostCheck.attempt]

/-- The connections are attempts at the store of pins. -/
theorem connections_eq (hgo : env.go.Lawful) (hpython : env.python.Lawful) :
    ∀ {cs : List HostCheck} {file : Option (List Char)}, l.Usable env file → (∀ c ∈ cs, c.Plain) →
      (l.connections env file cs).2 = (l.pins env).after file (cs.map HostCheck.attempt) ∧
        (l.connections env file cs).1.map HostCheck.attempt =
          (l.pins env).accepted file (cs.map HostCheck.attempt) ∧
        ∀ c ∈ (l.connections env file cs).1, c ∈ cs
  | [], file, _, _ => ⟨rfl, rfl, fun _ hc => hc⟩
  | c :: cs, file, hfile, hcs => by
    have hc := hcs c (List.mem_cons_self ..)
    have hverdict := verdict_eq_verify (l := l) hgo hfile hc.host
    have hnext : l.Usable env (l.verdict env file c).2 := by
      rw [hverdict]
      exact (pins_lawful hgo hpython l).verify_good hfile ⟨hc.host, hc.key⟩
    have hrest : ∀ c ∈ cs, c.Plain := fun c' hc' => hcs c' (List.mem_cons_of_mem _ hc')
    obtain ⟨hafter, haccepted, hmem⟩ := connections_eq hgo hpython hnext hrest
    rw [List.map_cons, Pinning.Store.accepted, ← hverdict, ← haccepted]
    refine ⟨?_, ?_, ?_⟩
    · change (l.connections env (l.verdict env file c).2 cs).2 =
        (l.pins env).after ((l.pins env).verify file c.attempt).2 (cs.map HostCheck.attempt)
      rw [hafter, hverdict]
    · change (if (l.verdict env file c).1 = true then c :: (l.connections env (l.verdict env file c).2 cs).1
        else (l.connections env (l.verdict env file c).2 cs).1).map HostCheck.attempt = _
      by_cases hok : (l.verdict env file c).1 = true
      · rw [if_pos hok, if_pos hok, List.map_cons]
      · rw [if_neg hok, if_neg hok]
    · change ∀ c' ∈ (if (l.verdict env file c).1 = true then
          c :: (l.connections env (l.verdict env file c).2 cs).1
        else (l.connections env (l.verdict env file c).2 cs).1), c' ∈ c :: cs
      intro c' hc'
      by_cases hok : (l.verdict env file c).1 = true
      · rw [if_pos hok, List.mem_cons] at hc'
        rcases hc' with rfl | hc'
        · exact List.mem_cons_self ..
        · exact List.mem_cons_of_mem _ (hmem c' hc')
      · rw [if_neg hok] at hc'
        exact List.mem_cons_of_mem _ (hmem c' hc')

/-- **One key for each host.** Connections in a row, in any of the SDKs: the
last file accepts every key that was accepted, what is accepted for a host the
file knew never changes, and two keys of one host are accepted only if the
first file accepts both. -/
theorem hostKeys_pinned (hgo : env.go.Lawful) (hpython : env.python.Lawful) (hfile : l.Usable env file)
    (hcs : ∀ c ∈ cs, c.Plain) :
    (∀ a ∈ (l.connections env file cs).1, l.accepts env (l.connections env file cs).2 a = true) ∧
      (∀ a b : HostCheck, a.Plain → b.Plain → a.entry = b.entry → l.accepts env file a = true →
        l.accepts env (l.connections env file cs).2 b = l.accepts env file b) ∧
      ∀ a ∈ (l.connections env file cs).1, ∀ b ∈ (l.connections env file cs).1, a.entry = b.entry →
        a.key = b.key ∨ l.accepts env file a = true ∧ l.accepts env file b = true := by
  obtain ⟨hafter, haccepted, hmem⟩ := connections_eq hgo hpython hfile hcs
  have hlawful := pins_lawful hgo hpython l
  have hvalid : ∀ a ∈ cs.map HostCheck.attempt, PlainHost a.name.1 ∧ WireKey a.key := by
    rintro a ha
    obtain ⟨c, hc, rfl⟩ := List.mem_map.mp ha
    exact ⟨(hcs c hc).host, (hcs c hc).key⟩
  have hlast : l.Usable env (l.connections env file cs).2 := hafter ▸ hlawful.after_good hfile hvalid
  obtain ⟨hsame, hkept, hone⟩ := hlawful.pinned hfile hvalid
  rw [← hafter] at hsame hkept
  rw [← haccepted] at hkept hone
  have hname {a b : HostCheck} (ha : PlainHost a.host) (hb : PlainHost b.host) (heq : a.entry = b.entry) :
      (a.host, a.port) = (b.host, b.port) := by
    obtain ⟨hhost, hport⟩ := formatHostEntry_inj ha hb heq
    exact Prod.ext hhost hport
  refine ⟨fun a ha => ?_, fun a b ha hb heq haccept => ?_, fun a ha b hb heq => ?_⟩
  · have hplain := hcs a (hmem a ha)
    exact (accepts_eq hgo hlast hplain.host).mpr (hkept a.attempt (List.mem_map_of_mem ha))
  · have hknown := ((accepts_eq hgo hfile ha.host).mp haccept).1
    rw [hname ha.host hb.host heq] at hknown
    obtain ⟨hknown', haccepts'⟩ := hsame _ hb.host hknown
    rw [Bool.eq_iff_iff, accepts_eq hgo hlast hb.host, accepts_eq hgo hfile hb.host, hknown', haccepts']
  · have hplain := hcs a (hmem a ha)
    have hplain' := hcs b (hmem b hb)
    have hentry := hname hplain.host hplain'.host heq
    cases hknown : (l.pins env).known file (a.host, a.port) with
    | false =>
      exact .inl (hone a.attempt (List.mem_map_of_mem ha) b.attempt (List.mem_map_of_mem hb) hknown hentry)
    | true =>
      have hfirst := (hkept a.attempt (List.mem_map_of_mem ha)).2
      have hsecond := (hkept b.attempt (List.mem_map_of_mem hb)).2
      have hknown' : (l.pins env).known file (b.host, b.port) = true := hentry ▸ hknown
      have hfirst' := ((hsame (a.host, a.port) hplain.host hknown).2 a.key).symm.trans hfirst
      have hsecond' := ((hsame (b.host, b.port) hplain'.host hknown').2 b.key).symm.trans hsecond
      exact .inr ⟨(accepts_eq hgo hfile hplain.host).mpr ⟨hknown, hfirst'⟩,
        (accepts_eq hgo hfile hplain'.host).mpr ⟨hknown', hsecond'⟩⟩

end Pins

namespace Demo

/-- `Normalize` of `host:port`. -/
def normalize (address : List Char) : List Char :=
  match address.splitOn ':' with
  | [host, port] => if port = "22".toList then host else '[' :: host ++ ']' :: ':' :: port
  | _ => address

/-- `knownhosts` for lines without patterns, markers or hashes. -/
def plainKnownHosts : Go.KnownHosts where
  new content := .ok fun address key =>
    match loadKnownHostKey (some content) (normalize address) 22 with
    | none => .unknown
    | some storedKey => if storedKey = key then .known else .mismatch
  line address key := hostLine (normalize address) 22 key

/-- `paramiko.HostKeys` for a file of such lines with one key for each host. -/
def plainHostKeys : Python.HostKeys (List Char) where
  empty := []
  load _ content := .ok content
  lookup hostKeys entry :=
    (loadKnownHostKey (some hostKeys) entry 22).map fun key => [(parseHostKeyType key, key)]
  add hostKeys entry _ key :=
    (if (openLine (some hostKeys)).all isWhiteSpace then hostKeys else hostKeys ++ ['\n']) ++
      (hostLine entry 22 key ++ ['\n'])
  save hostKeys := hostKeys

def hostKeyEnv : HostKeyEnv (List Char) where
  go := plainKnownHosts
  python := plainHostKeys
  path := "/data/.ssh/known_hosts"
  caller := .tunnel

theorem normalize_dialAddress {host : List Char} (h : PlainHost host) (port : ℕ) :
    normalize (dialAddress host port) = formatHostEntry host port := by
  have hsplit : (dialAddress host port).splitOn ':' = [host, (toString port).toList] := by
    unfold dialAddress
    rw [List.splitOn_append_cons_self_of_not_mem (h.not_mem (by decide)),
      List.splitOn_eq_singleton (digits_not_mem (by decide) port)]
  unfold normalize formatHostEntry
  rw [hsplit]
  dsimp only
  by_cases h22 : port = 22
  · rw [if_pos h22, h22]
    rfl
  · rw [if_neg h22]
    refine if_neg fun heq => h22 ?_
    have hdigits : Nat.toDigits 10 port = Nat.toDigits 10 22 := Nat.toList_repr.symm.trans heq
    have hport := congrArg (Nat.ofDigitChars 10 · 0) hdigits
    simpa only [Nat.ofDigitChars_ten_toDigits] using hport

theorem plainKnownHosts_check {host : List Char} (h : PlainHost host) (file : Option (List Char)) (port : ℕ)
    (key : Bytes) : plainKnownHosts.check file host port key =
      match loadKnownHostKey file host port with
      | none => .unknown
      | some storedKey => if storedKey = key then .known else .mismatch := by
  cases file with
  | none => rfl
  | some content =>
    simp only [Go.KnownHosts.check, plainKnownHosts, normalize_dialAddress h]
    rfl

theorem plainKnownHosts_lawful : plainKnownHosts.Lawful := by
  have hunknown : ∀ {file : Option (List Char)} {host : List Char} {port : ℕ} {key : Bytes}, PlainHost host →
      plainKnownHosts.check file host port key = .unknown → loadKnownHostKey file host port = none := by
    intro file host port key hhost hcheck
    rw [plainKnownHosts_check hhost] at hcheck
    cases hload : loadKnownHostKey file host port with
    | none => rfl
    | some storedKey =>
      rw [hload] at hcheck
      by_cases hkey : storedKey = key <;> simp [hkey] at hcheck
  constructor
  · intro file host port key _ hhost hcheck key'
    rw [plainKnownHosts_check hhost, hunknown hhost hcheck]
  · intro file host port key _ _ _
    refine ⟨endsBlank_append (List.getLast?_concat ..), fun host' port' key' hhost' why => ?_⟩
    rw [plainKnownHosts_check hhost']
    cases loadKnownHostKey (Go.saveHostKey plainKnownHosts.line file (dialAddress host port) key) host' port' with
    | none => simp
    | some storedKey => by_cases hkey : storedKey = key' <;> simp [hkey]
  · intro file host port key hfile hhost hkey hcheck host' port' key' hhost'
    have hsave : Go.saveHostKey plainKnownHosts.line file (dialAddress host port) key =
        saveHostKey file host port key := by
      have hline : plainKnownHosts.line (dialAddress host port) key = hostLine host port key := by
        change hostLine (normalize (dialAddress host port)) 22 key = _
        rw [normalize_dialAddress hhost]
        rfl
      unfold Go.saveHostKey saveHostKey
      rw [hline]
    have hround := roundTrips_of_ownLine (hunknown hhost hcheck) (hhost.oneField port) hfile.ends hkey.ne_nil
      hkey.toTypeField
    rw [hsave, plainKnownHosts_check hhost', plainKnownHosts_check hhost']
    by_cases hsame : host' = host ∧ port' = port
    · rw [if_pos hsame, hsame.1, hsame.2, hround.found]
      simp only [eq_comm]
    · rw [if_neg hsame, hround.others host' port' fun heq => hsame (formatHostEntry_inj hhost' hhost heq)]

theorem plainHostKeys_lawful : plainHostKeys.Lawful := by
  constructor
  intro file hostKeys host port key _ hhost hkey hnew
  have hnone : loadKnownHostKey (some hostKeys) host port = none := Option.map_eq_none_iff.mp hnew
  let ended := if (openLine (some hostKeys)).all isWhiteSpace then hostKeys else hostKeys ++ ['\n']
  have hended : EndsBlank (some ended) ∧
      ∀ entry, loadKnownHostKey (some ended) entry 22 = loadKnownHostKey (some hostKeys) entry 22 := by
    by_cases hblank : (openLine (some hostKeys)).all isWhiteSpace = true
    · have heq : ended = hostKeys := if_pos hblank
      rw [heq]
      exact ⟨hblank, fun _ => rfl⟩
    · have heq : ended = hostKeys ++ ['\n'] := if_neg hblank
      rw [heq]
      refine ⟨?_, fun entry => ?_⟩
      · change EndsBlank (some ((some hostKeys).getD [] ++ ['\n']))
        exact endsBlank_append rfl
      · unfold loadKnownHostKey
        dsimp only
        rw [splitOn_snoc, List.findSome?_append]
        exact Option.or_none
  have hround : RoundTrips (some ended) (saveHostKey (some ended) host port key) host port key :=
    roundTrips_of_ownLine ((hended.2 (formatHostEntry host port)).trans hnone) (hhost.oneField port) hended.1
      hkey.ne_nil hkey.toTypeField
  refine ⟨ended ++ (hostLine host port key ++ ['\n']), rfl, ?_, fun entry hentry => ?_⟩
  · exact congrArg (Option.map fun key => [(parseHostKeyType key, key)]) hround.found
  · have hother := (hround.others entry 22 hentry).trans (hended.2 entry)
    exact congrArg (Option.map fun key => [(parseHostKeyType key, key)]) hother

def otherHostKey : Bytes :=
  [0, 0, 0, 11, 115, 115, 104, 45, 101, 100, 50, 53, 53, 49, 57, 0, 0, 0, 32] ++ List.replicate 32 9

theorem otherHostKey_wire : WireKey otherHostKey where
  space := by decide +kernel
  newline := by decide +kernel
  length := by simp [otherHostKey]
  type := by decide +kernel

/-- A first key that is trusted, another one of the same host, and the first again. -/
def threeChecks : List HostCheck :=
  [⟨signerHost, 22, hostKey, true⟩, ⟨signerHost, 22, otherHostKey, true⟩, ⟨signerHost, 22, hostKey, false⟩]

theorem threeChecks_plain : ∀ c ∈ threeChecks, c.Plain := by
  have hchars : signerHost.all (fun c => decide (c.isAlphanum = true ∨ c ∈ ['.', '-', '_'])) = true := by
    decide +kernel
  have hhost : PlainHost signerHost :=
    ⟨by decide, fun c hc => of_decide_eq_true (List.all_eq_true.mp hchars c hc)⟩
  intro c hc
  simp only [threeChecks, List.mem_cons, List.not_mem_nil, or_false] at hc
  rcases hc with rfl | rfl | rfl
  · exact ⟨hhost, hostKey_wire⟩
  · exact ⟨hhost, otherHostKey_wire⟩
  · exact ⟨hhost, hostKey_wire⟩

/-- Go trusts the first key, and no other from then on. -/
theorem hostKeys_pinned_go :
    (Language.go.connections hostKeyEnv none threeChecks).1.map HostCheck.key = [hostKey, hostKey] ∧
      ∀ a ∈ (Language.go.connections hostKeyEnv none threeChecks).1,
        Language.go.accepts hostKeyEnv (Language.go.connections hostKeyEnv none threeChecks).2 a = true := by
  have husable : Language.go.Usable hostKeyEnv none := by
    refine ⟨rfl, fun host port key _ why hcheck => ?_⟩
    cases hcheck
  exact ⟨by decide +kernel,
    (hostKeys_pinned (l := .go) plainKnownHosts_lawful plainHostKeys_lawful husable threeChecks_plain).1⟩

end Demo

end AplaneSdk
