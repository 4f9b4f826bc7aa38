/-
# The endpoint registry

`endpoints.yaml` names the signer and the cosigners a client can reach. Each
SDK parses it, checks every entry, and lets callers resolve an alias. The
document here is what the YAML parser made of the file. The loaders are written
apart: Go strips the retired fields from the node tree, types the scalars and
decodes into structs; Python and TypeScript check one entry after another. Go
and Python keep the entries in a map; TypeScript keeps them in an object, which
has a prototype: an alias `__proto__` sets it instead of adding an entry, and
names like `constructor` are found in it though no document has them. Blanks
around a role or the default are trimmed by each language's own idea of a blank.
TypeScript, whose numbers do not tell `2` from `2.0`, also looks at how the
version is written, so its loader takes that text beside the parsed document.
`endpointRegistry_exact` says which documents and aliases this touches.

Key definitions: `EndpointEnv`, `Language.strip`, `Go.loadClientEndpointRegistry`,
`Python.loadClientEndpointRegistry`, `TypeScript.loadClientEndpointRegistry`,
`resolveClientEndpoint`, `EntryReads`, `DocReads`, `Settles`, `Served`, `TrimsAlike`.
Key theorems: `load_iff`, `strip_eq_plain`, `load_retired`, `served_iff`,
`all_load_iff`, `endpointRegistry_exact`.
-/
import AplaneSdk.Lib.Checks
import AplaneSdk.KnownHosts
import AplaneSdk.Calls

namespace AplaneSdk

open Lines Checks

/-! ### The pieces the loaders share -/

structure ParsedUrl where
  scheme : String
  hostname : String
  port : Option ℕ

/-- What a loader takes from its platform. -/
structure EndpointEnv where
  /-- The URL library: a URL, or the text of its error. -/
  parseUrl : String → Except String ParsedUrl
  /-- A path against the data directory. -/
  resolvePath : String → String
  /-- The file, as errors name it. -/
  endpointsPath : String
  /-- `%q` of Go. -/
  quote : String → String
  /-- How a version other than the expected one is shown. -/
  showVersion : Option Json → String
  /-- The text of the YAML decoder's own errors. -/
  yamlError : String

inductive EndpointRole
  | signer
  | cosigner
  deriving DecidableEq

structure ClientEndpointConfig where
  role : EndpointRole
  url : String
  identityFile : String
  knownHostsPath : String
  deriving DecidableEq

/-- `proto` is the prototype TypeScript's object of endpoints was given, if it
was given one. -/
structure ClientEndpointRegistry where
  default : String := ""
  endpoints : List (String × ClientEndpointConfig) := []
  proto : Option ClientEndpointConfig := none
  deriving DecidableEq

def clientEndpointsFile : String := "endpoints.yaml"

def clientEndpointSchemaVersion : ℤ := 2

def maxClientCosignerEndpoints : ℕ := 12

def documentFields : List String := ["schema_version", "default", "endpoints"]

def endpointFields : List String := ["role", "url", "identity_file", "known_hosts_path"]

def retiredEndpointFields : List String := ["signer_port", "local_port", "token_file"]

/-- `unicode.IsSpace`. -/
def isUnicodeSpace (c : Char) : Bool :=
  (9 ≤ c.toNat && c.toNat ≤ 13) || c.toNat == 32 || c.toNat == 0x85 || c.toNat == 0xA0 ||
    c.toNat == 0x1680 || (0x2000 ≤ c.toNat && c.toNat ≤ 0x200A) || c.toNat == 0x2028 ||
    c.toNat == 0x2029 || c.toNat == 0x202F || c.toNat == 0x205F || c.toNat == 0x3000

/-- What `strings.TrimSpace`, `str.strip` and `trim` take for a blank. -/
def Language.blank : Language → Char → Bool
  | go, c => isUnicodeSpace c
  | python, c => isUnicodeSpace c || (0x1C ≤ c.toNat && c.toNat ≤ 0x1F)
  | typescript, c => isWhiteSpace c

def Language.strip (l : Language) (s : String) : String := String.ofList (trim l.blank s.toList)

/-- Without the slashes at its end. -/
def dropSlashes (s : String) : String := String.ofList (s.toList.rdropWhile (· == '/'))

def aliasChar (c : Char) : Bool := c.isAlphanum || c == '.' || c == '_' || c == '-'

def quoted (s : String) : String := "\"" ++ s ++ "\""

def parseRole (role : String) : Option EndpointRole :=
  if role = "signer" then some .signer else if role = "cosigner" then some .cosigner else none

/-- The checks on the URL, `shown` as the language quotes a text and
`schemeError` as it words a wrong scheme. -/
def checkEndpointUrl (env : EndpointEnv) (shown : String → String) (label : String)
    (schemeError : String → String) (url : String) : Except SdkError Unit := do
  failIf (url = "") { text := label ++ ": url is required" }
  failIf (url = "self") { text := label ++ ": url " ++ shown "self" ++
    " is not supported; configure an explicit ssh://host[:port] endpoint" }
  match env.parseUrl url with
  | .error text => signerError (label ++ ": invalid url: " ++ text)
  | .ok parsed => do
    failIf (parsed.scheme ≠ "ssh") { text := schemeError parsed.scheme }
    failIf (parsed.hostname = "") { text := label ++ ": url host is required" }
    checkSome (fun port => failIf (port < 1 ∨ 65535 < port)
      { text := label ++ ": invalid url port " ++ shown (toString port) }) parsed.port

/-- The endpoint of four texts, once they are checked. -/
def endpointConfig (env : EndpointEnv) (role : EndpointRole) (url identityFile knownHostsPath : String) :
    ClientEndpointConfig where
  role := role
  url := url
  identityFile := env.resolvePath (if identityFile = "" then ".ssh/id_ed25519" else identityFile)
  knownHostsPath := env.resolvePath (if knownHostsPath = "" then ".ssh/known_hosts" else knownHostsPath)

def cosignerCount (endpoints : List (String × ClientEndpointConfig)) : ℕ :=
  endpoints.countP (·.2.role = .cosigner)

def signerAliases (endpoints : List (String × ClientEndpointConfig)) : List String :=
  (endpoints.filter (·.2.role = .signer)).map (·.1)

def errCosigners (count : ℕ) : SdkError :=
  { text := s!"{clientEndpointsFile} configures {count} cosigner endpoints; maximum is " ++
      s!"{maxClientCosignerEndpoints}; remove or consolidate endpoint profiles" }

def errDefaultUnused (shown : String) : SdkError :=
  { text := s!"{clientEndpointsFile} default endpoint {shown} is set but no \"signer\" endpoint is configured" }

def errDefaultOther (shown signer : String) : SdkError :=
  { text := s!"{clientEndpointsFile} default endpoint {shown} must be the \"signer\" endpoint {signer}" }

/-- The default, given the aliases of the signers. -/
def settleDefault (shown : String → String) (default : String) : List String → Except SdkError String
  | [] => do
    failIf (default ≠ "") (errDefaultUnused (shown default))
    pure ""
  | signer :: _ => do
    failIf (default ≠ "" ∧ default ≠ signer) (errDefaultOther (shown default) (shown signer))
    pure signer

/-- The entries of a document under `endpoints`, each replaced. -/
def mapEndpoints (f : String → Json → Json) : Json → Json
  | .obj members => .obj (members.map fun m => (m.1, if m.1 = "endpoints" then mapEntries m.2 else m.2))
  | raw => raw
where
  mapEntries : Json → Json
    | .obj entries => .obj (entries.map fun e => (e.1, f e.1 e.2))
    | value => value

/-! ### Go -/

namespace Go

def isRetiredClientEndpointField (name : String) : Bool := retiredEndpointFields.contains name

def stripEntry : Json → Json
  | .obj fields => .obj (fields.filter fun f => !isRetiredClientEndpointField f.1)
  | entry => entry

/-- `stripRetiredClientEndpointFields`. Everything else is emitted as written. -/
def stripRetiredClientEndpointFields (raw : Json) : Json := mapEndpoints (fun _ => stripEntry) raw

/-- `ShortTag`. -/
def shortTag : Json → String
  | .null => "!!null"
  | .bool _ => "!!bool"
  | .int _ => "!!int"
  | .float _ => "!!float"
  | .str _ => "!!str"
  | .arr _ => "!!seq"
  | .obj _ => "!!map"

def requireYAMLScalarType (label : String) (allowed : List String) (value : Option Json) :
    Except SdkError Unit :=
  checkSome (fun v => failIf (shortTag v ∉ allowed)
    { text := label ++ " must be " ++ " or ".intercalate allowed ++ ", got " ++ shortTag v }) value

/-- `validateClientEndpointRegistryScalarTypes`. -/
def validateClientEndpointRegistryScalarTypes (env : EndpointEnv) (raw : Json) : Except SdkError Unit :=
  match raw with
  | .obj _ => do
    requireYAMLScalarType "schema_version" ["!!int"] (raw.get? "schema_version")
    requireYAMLScalarType "default" ["!!str", "!!null"] (raw.get? "default")
    match raw.get? "endpoints" with
    | some (.obj entries) => forEach (fun _ e => checkEntry e.1 e.2) 0 entries
    | _ => .ok ()
  | _ => .ok ()
where
  checkEntry (name : String) (entry : Json) : Except SdkError Unit :=
    match entry with
    | .obj _ => forEach (fun _ field => requireYAMLScalarType ("endpoint " ++ env.quote name ++ " " ++ field)
        ["!!str", "!!null"] (entry.get? field)) 0 endpointFields
    | _ => .ok ()

def validateClientEndpointAlias (env : EndpointEnv) (name : String) : Except SdkError Unit := do
  failIf (name = "") { text := "alias is required" }
  failIf (name.toList.all aliasChar = false) { text := "alias " ++ env.quote name ++
    " must contain only ASCII letters, digits, '.', '_', or '-'" }

/-- An endpoint as the decoder fills it. -/
structure RawEndpoint where
  role : String := ""
  url : String := ""
  identityFile : String := ""
  knownHostsPath : String := ""

section Load

variable (env : EndpointEnv)

def errDecode : SdkError := { text := "failed to parse " ++ env.endpointsPath ++ ": " ++ env.yamlError }

/-- A string field: missing and null leave it empty. -/
def decodeText : Option Json → Except SdkError String
  | none => .ok ""
  | some .null => .ok ""
  | some (.str s) => .ok s
  | some _ => .error (errDecode env)

/-- The decoder on an entry, with known fields only. -/
def decodeEndpoint : Json → Except SdkError RawEndpoint
  | .null => .ok {}
  | .obj fields => do
    failIf (∃ f ∈ fields, f.1 ∉ endpointFields) (errDecode env)
    let role ← decodeText env ((Json.obj fields).get? "role")
    let url ← decodeText env ((Json.obj fields).get? "url")
    let identityFile ← decodeText env ((Json.obj fields).get? "identity_file")
    let knownHostsPath ← decodeText env ((Json.obj fields).get? "known_hosts_path")
    pure { role, url, identityFile, knownHostsPath }
  | _ => .error (errDecode env)

/-- `header.SchemaVersion`. -/
def headerVersion : Json → Except SdkError ℤ
  | .null => .ok 0
  | .obj members =>
    match (Json.obj members).get? "schema_version" with
    | none => .ok 0
    | some (.int n) => .ok n
    | some _ => .error (errDecode env)
  | _ => .error (errDecode env)

def decodeEndpoints : Option Json → Except SdkError (List (String × RawEndpoint))
  | none => .ok []
  | some .null => .ok []
  | some (.obj entries) => mapEach (fun _ e => do
      let endpoint ← decodeEndpoint env e.2
      pure (e.1, endpoint)) 0 entries
  | some _ => .error (errDecode env)

/-- `normalizeClientEndpoint`. -/
def normalizeClientEndpoint (name : String) (endpoint : RawEndpoint) :
    Except SdkError ClientEndpointConfig := do
  let label := "endpoint " ++ env.quote name
  match parseRole (Language.go.strip endpoint.role) with
  | none => signerError (label ++ ": unsupported role " ++ env.quote (Language.go.strip endpoint.role) ++
      " (expected \"signer\" or \"cosigner\")")
  | some role => do
    let url := dropSlashes (Language.go.strip endpoint.url)
    checkEndpointUrl env env.quote label (fun scheme => label ++ ": unsupported url scheme " ++
      env.quote scheme ++ " for endpoint " ++ env.quote name ++
      "; a node is reached only through its SSH server (ssh://host[:port])") url
    pure (endpointConfig env role url endpoint.identityFile endpoint.knownHostsPath)

/-- `normalizeClientEndpointRoles`: the default the registry gets. -/
def normalizeClientEndpointRoles (default : String) (endpoints : List (String × ClientEndpointConfig)) :
    Except SdkError String := do
  let default := Language.go.strip default
  mapErr (·.wrap (clientEndpointsFile ++ " default: "))
    (if default = "" then .ok () else validateClientEndpointAlias env default)
  failIf (1 < (signerAliases endpoints).length)
    { text := clientEndpointsFile ++ " may contain at most one \"signer\" endpoint" }
  failIf (maxClientCosignerEndpoints < cosignerCount endpoints) (errCosigners (cosignerCount endpoints))
  settleDefault env.quote default (signerAliases endpoints)

/-- `LoadClientEndpointRegistry` on a parsed document. -/
def loadClientEndpointRegistry (raw : Json) : Except SdkError ClientEndpointRegistry := do
  let raw := stripRetiredClientEndpointFields raw
  mapErr (·.wrap ("failed to parse " ++ env.endpointsPath ++ ": "))
    (validateClientEndpointRegistryScalarTypes env raw)
  let version ← headerVersion env raw
  failIf (version ≠ clientEndpointSchemaVersion)
    { text := clientEndpointsFile ++ " schema_version = " ++ toString version ++ ", want 2" }
  match raw with
  | .obj members => do
    failIf (∃ m ∈ members, m.1 ∉ documentFields) (errDecode env)
    let default ← decodeText env (raw.get? "default")
    let entries ← decodeEndpoints env (raw.get? "endpoints")
    let endpoints ← mapEach (fun _ e => do
      mapErr (·.wrap ("endpoint " ++ env.quote e.1 ++ ": ")) (validateClientEndpointAlias env e.1)
      let endpoint ← normalizeClientEndpoint env e.1 e.2
      pure (e.1, endpoint)) 0 entries
    let default ← normalizeClientEndpointRoles env default endpoints
    pure { default, endpoints }
  | _ => .error (errDecode env)

end Load

end Go

/-! ### Python and TypeScript -/

def optionalString (value : Option Json) (field : String) : Except SdkError String :=
  match value with
  | none => .ok ""
  | some .null => .ok ""
  | some (.str s) => .ok s
  | some _ => signerError s!"{field} must be a string"

def requireMapping (value : Json) (label : String) : Except SdkError (List (String × Json)) :=
  match value with
  | .obj members => .ok members
  | _ => signerError s!"{label} must be a mapping"

/-- The unknown field an error names: Python's is the first in order, TypeScript's
the first in the document. -/
def Language.unknownFirst : Language → List String → Option String
  | python, unknown => (unknown.mergeSort (· ≤ ·)).head?
  | _, unknown => unknown.head?

def requireKnownFields (l : Language) (members : List (String × Json)) (allowed : List String)
    (label : String) : Except SdkError Unit :=
  checkSome (fun field => signerError s!"{label} contains unknown field \"{field}\"")
    (l.unknownFirst ((members.map (·.1)).filter fun name => !allowed.contains name))

def validateEndpointAlias (name : String) : Except SdkError Unit :=
  failIf (name = "" ∨ name.toList.all aliasChar = false) { text := "alias " ++ quoted name ++
    " must contain only ASCII letters, digits, '.', '_', or '-'" }

/-- `/^[+-]?\d+$/`. -/
def isDecimalInteger (text : String) : Bool :=
  let digits := match text.toList with
    | '+' :: digits => digits
    | '-' :: digits => digits
    | digits => digits
  !digits.isEmpty && digits.all Char.isDigit

/-- The test of the version. Python wants an int. TypeScript wants the number,
written as a decimal integer if `source`, the text of the scalar, is there. -/
def Language.isSchemaVersion (source : String) : Language → Option Json → Bool
  | typescript, some value =>
    value.integer? == some clientEndpointSchemaVersion && (source == "" || isDecimalInteger source)
  | _, some (.int n) => n == clientEndpointSchemaVersion
  | _, _ => false

/-- The version an error names. -/
def Language.shownVersion (env : EndpointEnv) (source : String) : Language → Option Json → String
  | typescript, some value => if source = "" then env.showVersion (some value) else source
  | _, value => env.showVersion value

section Scripted

variable (l : Language) (env : EndpointEnv)

/-- `_normalize_client_endpoint` and `normalizeEndpoint`. -/
def normalizeEndpoint (name : String) (raw : Json) : Except SdkError ClientEndpointConfig := do
  let label := "endpoint " ++ quoted name
  let members ← requireMapping raw label
  requireKnownFields l members (endpointFields ++ retiredEndpointFields) label
  let roleText ← optionalString (raw.get? "role") "role"
  match parseRole (l.strip roleText) with
  | none => signerError (label ++ ": unsupported role " ++ quoted (l.strip roleText) ++
      " (expected \"signer\" or \"cosigner\")")
  | some role => do
    let urlText ← optionalString (raw.get? "url") "url"
    let url := dropSlashes (l.strip urlText)
    checkEndpointUrl env quoted label (fun scheme => label ++ ": unsupported url scheme " ++ quoted scheme ++
      "; a node is reached only through its SSH server (ssh://host[:port])") url
    let identityFile ← optionalString (raw.get? "identity_file") "identity_file"
    let knownHostsPath ← optionalString (raw.get? "known_hosts_path") "known_hosts_path"
    pure (endpointConfig env role url identityFile knownHostsPath)

/-- The loop over the entries. -/
def normalizeEntries (entries : List (String × Json)) :
    Except SdkError (List (String × ClientEndpointConfig)) :=
  mapEach (fun _ e => do
    validateEndpointAlias e.1
    let endpoint ← normalizeEndpoint l env e.1 e.2
    pure (e.1, endpoint)) 0 entries

/-- The entries: missing and null are none. -/
def endpointEntries (raw : Json) : Except SdkError (List (String × Json)) :=
  match raw.get? "endpoints" with
  | none => .ok []
  | some .null => .ok []
  | some value => requireMapping value (clientEndpointsFile ++ " endpoints")

/-- The checks on the document before its entries. -/
def checkDocument (source : String) (raw : Json) : Except SdkError (List (String × Json)) := do
  let members ← requireMapping raw clientEndpointsFile
  requireKnownFields l members documentFields clientEndpointsFile
  failIf (l.isSchemaVersion source (raw.get? "schema_version") = false)
    { text := clientEndpointsFile ++ " schema_version = " ++ l.shownVersion env source (raw.get? "schema_version") ++
        ", want 2" }
  endpointEntries raw

def checkDefaultAlias (default : String) : Except SdkError Unit :=
  if default = "" then .ok () else validateEndpointAlias default

/-- The default as the document gives it. -/
def documentDefault (raw : Json) : Except SdkError String := do
  let text ← optionalString (raw.get? "default") "default"
  checkDefaultAlias (l.strip text)
  pure (l.strip text)

def checkCosigners (endpoints : List (String × ClientEndpointConfig)) : Except SdkError Unit :=
  failIf (maxClientCosignerEndpoints < cosignerCount endpoints) (errCosigners (cosignerCount endpoints))

def settleSigner (default : String) (endpoints : List (String × ClientEndpointConfig)) :
    Except SdkError String := do
  failIf (1 < (signerAliases endpoints).length)
    { text := clientEndpointsFile ++ " may contain at most one \"signer\" endpoint" }
  settleDefault quoted default (signerAliases endpoints)

end Scripted

/-- `yaml.safe_load(handle) or {}`. -/
def Python.orEmpty (raw : Json) : Json := if raw.truthy false then raw else .obj []

/-- `document.toJS() ?? {}`. -/
def TypeScript.orEmpty : Json → Json
  | .null => .obj []
  | raw => raw

/-- `load_client_endpoint_registry` on what `yaml.safe_load` gave. -/
def Python.loadClientEndpointRegistry (env : EndpointEnv) (raw : Json) :
    Except SdkError ClientEndpointRegistry := do
  let raw := Python.orEmpty raw
  let entries ← checkDocument .python env "" raw
  let endpoints ← normalizeEntries .python env entries
  checkCosigners endpoints
  let default ← documentDefault .python raw
  let default ← settleSigner default endpoints
  pure { default, endpoints }

/-- `registry.endpoints[alias] = endpoint`. The one inherited setter is that of
`__proto__`; every other alias becomes a property of the object's own. -/
def TypeScript.setEndpoint (registry : ClientEndpointRegistry) (e : String × ClientEndpointConfig) :
    ClientEndpointRegistry :=
  if e.1 = "__proto__" then { registry with proto := some e.2 }
  else { registry with endpoints := registry.endpoints ++ [e] }

/-- `loadClientEndpointRegistry` on `document.toJS()`, with the source text of the
version, empty where its node is no scalar. -/
def TypeScript.loadClientEndpointRegistry (env : EndpointEnv) (schemaVersionSource : String) (raw : Json) :
    Except SdkError ClientEndpointRegistry := do
  let raw := TypeScript.orEmpty raw
  let entries ← checkDocument .typescript env schemaVersionSource raw
  let configs ← normalizeEntries .typescript env entries
  let registry := configs.foldl TypeScript.setEndpoint {}
  let default ← documentDefault .typescript raw
  checkCosigners registry.endpoints
  let default ← settleSigner default registry.endpoints
  pure { registry with default }

def Language.loadClientEndpointRegistry (l : Language) (env : EndpointEnv) (source : String) (raw : Json) :
    Except SdkError ClientEndpointRegistry :=
  match l with
  | go => Go.loadClientEndpointRegistry env raw
  | python => Python.loadClientEndpointRegistry env raw
  | typescript => TypeScript.loadClientEndpointRegistry env source raw

/-! ### Resolving -/

/-- What a property of the endpoints is. Only TypeScript's object has others
than endpoints: the texts of an endpoint that became its prototype, and what
`Object.prototype` has. -/
inductive Resolved
  | endpoint (c : ClientEndpointConfig)
  | text (s : String)
  | builtin (name : String)
  deriving DecidableEq

/-- The properties of `Object.prototype`. -/
def objectPrototype : List String :=
  ["constructor", "__defineGetter__", "__defineSetter__", "hasOwnProperty", "__lookupGetter__",
    "__lookupSetter__", "isPrototypeOf", "propertyIsEnumerable", "toString", "valueOf", "__proto__",
    "toLocaleString"]

def EndpointRole.text : EndpointRole → String
  | signer => "signer"
  | cosigner => "cosigner"

/-- A property that an object inherits from an endpoint, if it is truthy. -/
def ClientEndpointConfig.property (c : ClientEndpointConfig) (name : String) : Option Resolved :=
  if name = "__proto__" then some (.endpoint c)
  else if name = "role" then some (.text c.role.text)
  else if name = "url" then some (.text c.url)
  else if name = "identityFile" then some (.text c.identityFile)
  else if name = "knownHostsPath" then some (.text c.knownHostsPath)
  else none

/-- `registry.endpoints[selected]`. -/
def Language.lookupEndpoint (l : Language) (registry : ClientEndpointRegistry) (selected : String) :
    Option Resolved :=
  match l with
  | typescript => ((registry.endpoints.lookup selected).map .endpoint).or
      ((registry.proto.bind fun c => c.property selected).or
        (if selected ∈ objectPrototype then some (.builtin selected) else none))
  | _ => (registry.endpoints.lookup selected).map .endpoint

/-- A value `!endpoint` passes. -/
def Resolved.truthy : Resolved → Bool
  | text s => s != ""
  | _ => true

/-- `ResolveClientEndpoint`, `resolve_client_endpoint`, `resolveClientEndpoint`;
the empty alias is no alias. -/
def resolveClientEndpoint (l : Language) (env : EndpointEnv) (registry : ClientEndpointRegistry)
    (name : String) : Except SdkError (String × Resolved) := do
  let selected := if name = "" then registry.default else name
  failIf (selected = "") { text := clientEndpointsFile ++ " has no default signer endpoint" }
  match (l.lookupEndpoint registry selected).filter Resolved.truthy with
  | none => signerError ("endpoint alias " ++ (if l = .go then env.quote selected else quoted selected) ++
      " is not defined")
  | some endpoint => pure (selected, endpoint)

/-! ### What a document reads as -/

/-- A text field: missing and null are the empty text. -/
def fieldText : Option Json → Option String
  | none => some ""
  | some .null => some ""
  | some (.str s) => some s
  | some _ => none

/-- The entries under `endpoints`. -/
def entriesOf : Option Json → Option (List (String × Json))
  | none => some []
  | some .null => some []
  | some (.obj entries) => some entries
  | some _ => none

def ValidAlias (name : String) : Prop := name ≠ "" ∧ name.toList.all aliasChar = true

structure UrlOk (env : EndpointEnv) (url : String) : Prop where
  nonempty : url ≠ ""
  notSelf : url ≠ "self"
  parsed : ∃ parsed, env.parseUrl url = .ok parsed ∧ parsed.scheme = "ssh" ∧ parsed.hostname ≠ "" ∧
    ∀ port, parsed.port = some port → 1 ≤ port ∧ port ≤ 65535

/-- The endpoint an entry stands for. -/
structure EntryReads (l : Language) (env : EndpointEnv) (entry : Json) (c : ClientEndpointConfig) :
    Prop where
  fields : ∃ members, entry = .obj members ∧ ∀ m ∈ members, m.1 ∈ endpointFields ++ retiredEndpointFields
  role : ∃ text, fieldText (entry.get? "role") = some text ∧ parseRole (l.strip text) = some c.role
  url : ∃ text, fieldText (entry.get? "url") = some text ∧ c.url = dropSlashes (l.strip text) ∧
    UrlOk env c.url
  identityFile : ∃ text, fieldText (entry.get? "identity_file") = some text ∧
    c.identityFile = env.resolvePath (if text = "" then ".ssh/id_ed25519" else text)
  knownHostsPath : ∃ text, fieldText (entry.get? "known_hosts_path") = some text ∧
    c.knownHostsPath = env.resolvePath (if text = "" then ".ssh/known_hosts" else text)

/-- The endpoints the entries stand for, one by one. -/
def EntriesRead (l : Language) (env : EndpointEnv) :
    List (String × Json) → List (String × ClientEndpointConfig) → Prop :=
  List.Forall₂ fun e c => c.1 = e.1 ∧ ValidAlias e.1 ∧ EntryReads l env e.2 c.2

/-- The endpoints and the default of a document, before they are held against
each other. -/
structure DocReads (l : Language) (env : EndpointEnv) (source : String) (raw : Json)
    (configs : List (String × ClientEndpointConfig)) (default : String) : Prop where
  members : ∃ members, raw = .obj members ∧ ∀ m ∈ members, m.1 ∈ documentFields
  version : l.isSchemaVersion source (raw.get? "schema_version") = true
  entries : ∃ entries, entriesOf (raw.get? "endpoints") = some entries ∧ EntriesRead l env entries configs
  default : ∃ text, fieldText (raw.get? "default") = some text ∧ default = l.strip text ∧
    (default = "" ∨ ValidAlias default)

/-- The default a registry ends with. -/
structure Settles (endpoints : List (String × ClientEndpointConfig)) (default out : String) : Prop where
  signer : (signerAliases endpoints).length ≤ 1
  cosigners : cosignerCount endpoints ≤ maxClientCosignerEndpoints
  default : (signerAliases endpoints = [] ∧ default = "" ∧ out = "") ∨
    ∃ a, signerAliases endpoints = [a] ∧ (default = "" ∨ default = a) ∧ out = a

/-- The registry of the endpoints, before it has a default. -/
def Language.registry (l : Language) (configs : List (String × ClientEndpointConfig)) :
    ClientEndpointRegistry :=
  match l with
  | typescript => configs.foldl TypeScript.setEndpoint {}
  | _ => { endpoints := configs }

section Pieces

variable {l : Language} {env : EndpointEnv} {source : String}

theorem optionalString_ok {value : Option Json} {field s : String} :
    optionalString value field = .ok s ↔ fieldText value = some s := by
  unfold optionalString fieldText
  split <;> simp [signerError]

theorem decodeText_ok {value : Option Json} {s : String} :
    Go.decodeText env value = .ok s ↔ fieldText value = some s := by
  unfold Go.decodeText fieldText
  split <;> simp

theorem requireMapping_ok {value : Json} {label : String} {members : List (String × Json)} :
    requireMapping value label = .ok members ↔ value = .obj members := by
  cases value <;> simp [requireMapping, signerError]

theorem unknownFirst_eq_none {unknown : List String} : l.unknownFirst unknown = none ↔ unknown = [] := by
  cases l with
  | go => simp [Language.unknownFirst]
  | typescript => simp [Language.unknownFirst]
  | python =>
    unfold Language.unknownFirst
    rw [List.head?_eq_none_iff]
    constructor
    · intro h
      have hlen := congrArg List.length h
      rw [List.length_mergeSort] at hlen
      exact List.length_eq_zero_iff.mp hlen
    · intro h
      rw [h, List.mergeSort_nil]

theorem requireKnownFields_ok {members : List (String × Json)} {allowed : List String} {label : String}
    {u : Unit} : requireKnownFields l members allowed label = .ok u ↔ ∀ m ∈ members, m.1 ∈ allowed := by
  have hknown : ((members.map (·.1)).filter fun name => !allowed.contains name) = [] ↔
      ∀ m ∈ members, m.1 ∈ allowed := by
    simp [List.filter_eq_nil_iff]
  unfold requireKnownFields
  rw [← hknown, ← unknownFirst_eq_none (l := l)]
  cases l.unknownFirst ((members.map (·.1)).filter fun name => !allowed.contains name) with
  | none => simp [checkSome]
  | some field => simp [checkSome, signerError]

theorem validateEndpointAlias_ok {name : String} {u : Unit} :
    validateEndpointAlias name = .ok u ↔ ValidAlias name := by
  unfold validateEndpointAlias ValidAlias
  rw [failIf_ok, not_or, Bool.not_eq_false]

theorem validateClientEndpointAlias_ok {name : String} {u : Unit} :
    Go.validateClientEndpointAlias env name = .ok u ↔ ValidAlias name := by
  unfold Go.validateClientEndpointAlias ValidAlias
  rw [seq_eq_ok, failIf_ok, failIf_ok, Bool.not_eq_false]

theorem checkEndpointUrl_ok {shown : String → String} {label url : String} {schemeError : String → String}
    {u : Unit} : checkEndpointUrl env shown label schemeError url = .ok u ↔ UrlOk env url := by
  unfold checkEndpointUrl
  rw [seq_eq_ok, seq_eq_ok, failIf_ok, failIf_ok]
  cases hparse : env.parseUrl url with
  | error text =>
    constructor
    · rintro ⟨-, -, h⟩
      cases h
    · rintro ⟨-, -, parsed, h, -⟩
      rw [hparse] at h
      cases h
  | ok parsed =>
    dsimp only
    rw [seq_eq_ok, seq_eq_ok, failIf_ok, failIf_ok, not_not, checkSome_ok]
    constructor
    · rintro ⟨hne, hself, hscheme, hhost, hport⟩
      refine ⟨hne, hself, parsed, hparse, hscheme, hhost, fun port hsome => ?_⟩
      have hrange := failIf_ok.mp (hport port hsome)
      omega
    · rintro ⟨hne, hself, parsed', h, hscheme, hhost, hport⟩
      rw [hparse] at h
      cases h
      refine ⟨hne, hself, hscheme, hhost, fun port hsome => failIf_ok.mpr ?_⟩
      have hrange := hport port hsome
      omega

/-- An entry of Python and TypeScript. -/
theorem normalizeEndpoint_ok {name : String} {raw : Json} {c : ClientEndpointConfig} :
    normalizeEndpoint l env name raw = .ok c ↔ EntryReads l env raw c := by
  unfold normalizeEndpoint
  simp only [bind_eq_ok, requireMapping_ok, requireKnownFields_ok, exists_const, optionalString_ok]
  constructor
  · rintro ⟨members, hobj, hknown, role, hrole, h⟩
    cases hparse : parseRole (l.strip role) with
    | none =>
      rw [hparse] at h
      cases h
    | some r =>
      rw [hparse] at h
      simp only [bind_eq_ok, optionalString_ok, checkEndpointUrl_ok, exists_const, pure_eq_ok] at h
      obtain ⟨url, hurl, hok, identity, hid, known, hkh, rfl⟩ := h
      exact ⟨⟨members, hobj, hknown⟩, ⟨role, hrole, hparse⟩, ⟨url, hurl, rfl, hok⟩, ⟨identity, hid, rfl⟩,
        ⟨known, hkh, rfl⟩⟩
  · rintro ⟨⟨members, hobj, hknown⟩, ⟨role, hrole, hparse⟩, ⟨url, hurl, hcurl, hok⟩,
      ⟨identity, hid, hcid⟩, ⟨known, hkh, hckh⟩⟩
    refine ⟨members, hobj, hknown, role, hrole, ?_⟩
    rw [hparse]
    simp only [bind_eq_ok, optionalString_ok, checkEndpointUrl_ok, exists_const, pure_eq_ok]
    refine ⟨url, hurl, hcurl ▸ hok, identity, hid, known, hkh, ?_⟩
    unfold endpointConfig
    rw [← hcurl, ← hcid, ← hckh]

/-! ### Fields that are filtered or replaced -/

theorem lookup_filter {α : Type} {p : String × α → Bool} {name : String} (hp : ∀ v, p (name, v) = true) :
    ∀ members : List (String × α), (members.filter p).lookup name = members.lookup name
  | [] => rfl
  | (key, v) :: rest => by
    have ih := lookup_filter hp rest
    by_cases hkey : name = key
    · rw [← hkey, List.filter_cons_of_pos (hp v), List.lookup_cons_self, List.lookup_cons_self]
    · have hcons : ((key, v) :: rest).lookup name = rest.lookup name := by
        rw [List.lookup_cons, beq_false_of_ne hkey]
      rw [hcons, ← ih]
      by_cases hkeep : p (key, v) = true
      · rw [List.filter_cons_of_pos hkeep, List.lookup_cons, beq_false_of_ne hkey]
      · rw [List.filter_cons_of_neg hkeep]

theorem lookup_map_values {α β : Type} (f : String → α → β) (name : String) :
    ∀ members : List (String × α),
      (members.map fun m => (m.1, f m.1 m.2)).lookup name = (members.lookup name).map (f name)
  | [] => rfl
  | (key, v) :: rest => by
    have ih := lookup_map_values f name rest
    by_cases hkey : name = key
    · rw [hkey, List.map_cons, List.lookup_cons_self, List.lookup_cons_self]
      rfl
    · rw [List.map_cons, List.lookup_cons, beq_false_of_ne hkey, List.lookup_cons, beq_false_of_ne hkey]
      exact ih

/-- A field that is not retired is as in the entry. -/
theorem get?_stripEntry {name : String} (hname : Go.isRetiredClientEndpointField name = false) (entry : Json) :
    (Go.stripEntry entry).get? name = entry.get? name := by
  cases entry with
  | obj fields =>
    simp only [Go.stripEntry, Json.get?]
    rw [← List.filter_reverse]
    exact lookup_filter (fun v => by simp [hname]) fields.reverse
  | _ => rfl

theorem get?_mapEndpoints {f : String → Json → Json} {name : String} (hname : name ≠ "endpoints")
    (raw : Json) : (mapEndpoints f raw).get? name = raw.get? name := by
  cases raw with
  | obj members =>
    simp only [mapEndpoints, Json.get?]
    rw [← List.map_reverse,
      lookup_map_values fun key v => if key = "endpoints" then mapEndpoints.mapEntries f v else v]
    simp [hname]
  | _ => rfl

theorem get?_endpoints (f : String → Json → Json) (raw : Json) :
    (mapEndpoints f raw).get? "endpoints" = (raw.get? "endpoints").map (mapEndpoints.mapEntries f) := by
  cases raw with
  | obj members =>
    simp only [mapEndpoints, Json.get?]
    rw [← List.map_reverse,
      lookup_map_values fun key v => if key = "endpoints" then mapEndpoints.mapEntries f v else v]
    simp
  | _ => rfl

/-! ### What each loader accepts -/

theorem settleDefault_ok {shown : String → String} {default out : String} {signers : List String}
    (hone : signers.length ≤ 1) : settleDefault shown default signers = .ok out ↔
      (signers = [] ∧ default = "" ∧ out = "") ∨
        ∃ a, signers = [a] ∧ (default = "" ∨ default = a) ∧ out = a := by
  cases signers with
  | nil =>
    simp only [settleDefault, seq_eq_ok, failIf_ok, not_not, pure_eq_ok]
    simp [eq_comm]
  | cons a rest =>
    have hrest : rest = [] := by
      simp only [List.length_cons] at hone
      exact List.length_eq_zero_iff.mp (by omega)
    simp only [settleDefault, seq_eq_ok, failIf_ok, pure_eq_ok]
    rw [hrest]
    constructor
    · rintro ⟨hdefault, rfl⟩
      exact .inr ⟨a, rfl, by tauto, rfl⟩
    · rintro (⟨hnil, -, -⟩ | ⟨b, hb, hdefault, rfl⟩)
      · cases hnil
      · cases hb
        exact ⟨by tauto, rfl⟩

theorem normalizeClientEndpointRoles_ok {default out : String}
    {endpoints : List (String × ClientEndpointConfig)} :
    Go.normalizeClientEndpointRoles env default endpoints = .ok out ↔
      (Language.go.strip default = "" ∨ ValidAlias (Language.go.strip default)) ∧
        Settles endpoints (Language.go.strip default) out := by
  unfold Go.normalizeClientEndpointRoles
  simp only [seq_eq_ok, failIf_ok, mapErr_ok, Nat.not_lt]
  have hname : (if Language.go.strip default = "" then Except.ok ()
      else Go.validateClientEndpointAlias env (Language.go.strip default)) = .ok () ↔
      (Language.go.strip default = "" ∨ ValidAlias (Language.go.strip default)) := by
    by_cases hempty : Language.go.strip default = ""
    · simp [hempty]
    · simp [hempty, validateClientEndpointAlias_ok]
  rw [hname]
  constructor
  · rintro ⟨halias, hone, hcosigners, hsettle⟩
    exact ⟨halias, hone, hcosigners, (settleDefault_ok hone).mp hsettle⟩
  · rintro ⟨halias, hone, hcosigners, hdefault⟩
    exact ⟨halias, hone, hcosigners, (settleDefault_ok hone).mpr hdefault⟩

theorem settleSigner_ok {default out : String} {endpoints : List (String × ClientEndpointConfig)} :
    (checkCosigners endpoints = .ok () ∧ settleSigner default endpoints = .ok out) ↔
      Settles endpoints default out := by
  unfold checkCosigners settleSigner
  simp only [seq_eq_ok, failIf_ok, Nat.not_lt]
  constructor
  · rintro ⟨hcosigners, hone, hsettle⟩
    exact ⟨hone, hcosigners, (settleDefault_ok hone).mp hsettle⟩
  · rintro ⟨hone, hcosigners, hdefault⟩
    exact ⟨hcosigners, hone, (settleDefault_ok hone).mpr hdefault⟩

theorem documentDefault_ok {raw : Json} {default : String} :
    documentDefault l raw = .ok default ↔ ∃ text, fieldText (raw.get? "default") = some text ∧
      default = l.strip text ∧ (default = "" ∨ ValidAlias default) := by
  unfold documentDefault checkDefaultAlias
  simp only [bind_eq_ok, optionalString_ok, pure_eq_ok]
  constructor
  · rintro ⟨text, htext, u, halias, rfl⟩
    refine ⟨text, htext, rfl, ?_⟩
    by_cases hempty : l.strip text = ""
    · exact .inl hempty
    · rw [if_neg hempty, validateEndpointAlias_ok] at halias
      exact .inr halias
  · rintro ⟨text, htext, rfl, halias⟩
    refine ⟨text, htext, (), ?_, rfl⟩
    by_cases hempty : l.strip text = ""
    · rw [if_pos hempty]
    · rw [if_neg hempty, validateEndpointAlias_ok]
      exact halias.resolve_left hempty

theorem normalizeEntries_ok {entries : List (String × Json)}
    {configs : List (String × ClientEndpointConfig)} :
    normalizeEntries l env entries = .ok configs ↔ EntriesRead l env entries configs := by
  unfold normalizeEntries EntriesRead
  rw [mapEach_forall₂]
  have hentry : ∀ (e : String × Json) (c : String × ClientEndpointConfig),
      (do
        validateEndpointAlias e.1
        let endpoint ← normalizeEndpoint l env e.1 e.2
        pure (e.1, endpoint) : Except SdkError (String × ClientEndpointConfig)) = .ok c ↔
      c.1 = e.1 ∧ ValidAlias e.1 ∧ EntryReads l env e.2 c.2 := by
    intro e c
    rw [seq_eq_ok, validateEndpointAlias_ok, bind_eq_ok]
    simp only [normalizeEndpoint_ok, pure_eq_ok]
    constructor
    · rintro ⟨halias, endpoint, hentry, rfl⟩
      exact ⟨rfl, halias, hentry⟩
    · rintro ⟨hname, halias, hentry⟩
      exact ⟨halias, c.2, hentry, by rw [← hname]⟩
  exact ⟨fun h => h.imp fun e c => (hentry e c).mp, fun h => h.imp fun e c => (hentry e c).mpr⟩

theorem endpointEntries_ok {raw : Json} {entries : List (String × Json)} :
    endpointEntries raw = .ok entries ↔ entriesOf (raw.get? "endpoints") = some entries := by
  unfold endpointEntries
  cases raw.get? "endpoints" with
  | none => simp [entriesOf]
  | some value =>
    cases value with
    | null => simp [entriesOf]
    | _ => simp [entriesOf, requireMapping, signerError]

theorem isSchemaVersion_iff (hl : l ≠ .typescript) {value : Option Json} :
    l.isSchemaVersion source value = true ↔ value = some (.int clientEndpointSchemaVersion) := by
  cases l with
  | typescript => exact absurd rfl hl
  | _ => cases value with
    | none => simp [Language.isSchemaVersion]
    | some v => cases v <;> simp [Language.isSchemaVersion]

theorem checkDocument_ok {raw : Json} {entries : List (String × Json)} :
    checkDocument l env source raw = .ok entries ↔
      (∃ members, raw = .obj members ∧ ∀ m ∈ members, m.1 ∈ documentFields) ∧
      l.isSchemaVersion source (raw.get? "schema_version") = true ∧
      entriesOf (raw.get? "endpoints") = some entries := by
  unfold checkDocument
  simp only [bind_eq_ok, requireMapping_ok, requireKnownFields_ok, exists_const, failIf_ok,
    Bool.not_eq_false, endpointEntries_ok]
  constructor
  · rintro ⟨members, hobj, hknown, hversion, hentries⟩
    exact ⟨⟨members, hobj, hknown⟩, hversion, hentries⟩
  · rintro ⟨⟨members, hobj, hknown⟩, hversion, hentries⟩
    exact ⟨members, hobj, hknown, hversion, hentries⟩

/-! ### Go's two passes -/

theorem decodeEndpoint_obj {fields : List (String × Json)} {r : Go.RawEndpoint} :
    Go.decodeEndpoint env (.obj fields) = .ok r ↔ (∀ f ∈ fields, f.1 ∈ endpointFields) ∧
      fieldText ((Json.obj fields).get? "role") = some r.role ∧
      fieldText ((Json.obj fields).get? "url") = some r.url ∧
      fieldText ((Json.obj fields).get? "identity_file") = some r.identityFile ∧
      fieldText ((Json.obj fields).get? "known_hosts_path") = some r.knownHostsPath := by
  have hknown : ¬ (∃ f ∈ fields, f.1 ∉ endpointFields) ↔ ∀ f ∈ fields, f.1 ∈ endpointFields := by
    simp
  simp only [Go.decodeEndpoint, bind_eq_ok, failIf_ok, exists_const, decodeText_ok, pure_eq_ok]
  rw [hknown]
  constructor
  · rintro ⟨hfields, role, hrole, url, hurl, identity, hid, known, hkh, rfl⟩
    exact ⟨hfields, hrole, hurl, hid, hkh⟩
  · rintro ⟨hfields, hrole, hurl, hid, hkh⟩
    exact ⟨hfields, r.role, hrole, r.url, hurl, r.identityFile, hid, r.knownHostsPath, hkh, rfl⟩

theorem normalizeClientEndpoint_ok {name : String} {r : Go.RawEndpoint} {c : ClientEndpointConfig} :
    Go.normalizeClientEndpoint env name r = .ok c ↔ ∃ role, parseRole (Language.go.strip r.role) = some role ∧
      UrlOk env (dropSlashes (Language.go.strip r.url)) ∧
      endpointConfig env role (dropSlashes (Language.go.strip r.url)) r.identityFile r.knownHostsPath = c := by
  simp only [Go.normalizeClientEndpoint]
  cases parseRole (Language.go.strip r.role) with
  | none => simp [signerError]
  | some role =>
    dsimp only
    rw [seq_eq_ok, checkEndpointUrl_ok, pure_eq_ok]
    simp

/-- An entry of Go, decoded without its retired fields and normalized. -/
theorem go_entry_ok (name : String) {entry : Json} {c : ClientEndpointConfig} :
    (∃ r, Go.decodeEndpoint env (Go.stripEntry entry) = .ok r ∧
      Go.normalizeClientEndpoint env name r = .ok c) ↔ EntryReads .go env entry c := by
  have hkept : ∀ field ∈ endpointFields, Go.isRetiredClientEndpointField field = false := by decide
  have hget : ∀ field ∈ endpointFields, (Go.stripEntry entry).get? field = entry.get? field :=
    fun field hfield => get?_stripEntry (hkept field hfield) entry
  have hrole := hget "role" (by decide)
  have hurl := hget "url" (by decide)
  have hid := hget "identity_file" (by decide)
  have hkh := hget "known_hosts_path" (by decide)
  cases entry with
  | obj fields =>
    have hfields : (∀ f ∈ fields.filter fun f => !Go.isRetiredClientEndpointField f.1, f.1 ∈ endpointFields) ↔
        ∀ m ∈ fields, m.1 ∈ endpointFields ++ retiredEndpointFields := by
      simp only [List.mem_filter, List.mem_append, Go.isRetiredClientEndpointField, Bool.not_eq_true',
        List.contains_eq_mem, decide_eq_false_iff_not]
      exact forall_congr' fun f => by tauto
    simp only [Go.stripEntry] at hrole hurl hid hkh ⊢
    simp only [decodeEndpoint_obj, normalizeClientEndpoint_ok, hrole, hurl, hid, hkh, hfields]
    constructor
    · rintro ⟨r, ⟨hknown, hr, hu, hi, hk⟩, role, hparse, hok, rfl⟩
      exact ⟨⟨fields, rfl, hknown⟩, ⟨_, hr, hparse⟩, ⟨_, hu, rfl, hok⟩, ⟨_, hi, rfl⟩, ⟨_, hk, rfl⟩⟩
    · rintro ⟨⟨members, hobj, hknown⟩, ⟨role, hr, hparse⟩, ⟨url, hu, hcu, hok⟩, ⟨identity, hi, hci⟩,
        ⟨known, hk, hck⟩⟩
      cases hobj
      refine ⟨⟨role, url, identity, known⟩, ⟨hknown, hr, hu, hi, hk⟩, c.role, hparse, hcu ▸ hok, ?_⟩
      unfold endpointConfig
      rw [← hcu, ← hci, ← hck]
  | null =>
    constructor
    · rintro ⟨r, hdecode, hnorm⟩
      obtain ⟨role, hparse, -⟩ := normalizeClientEndpoint_ok.mp hnorm
      cases hdecode
      exact absurd hparse (by simp [Language.strip, trim, parseRole])
    · rintro ⟨⟨members, hobj, -⟩, -⟩
      cases hobj
  | _ =>
    constructor
    · rintro ⟨r, hdecode, -⟩
      cases hdecode
    · rintro ⟨⟨members, hobj, -⟩, -⟩
      cases hobj

theorem go_entries_ok {value : Option Json} {configs : List (String × ClientEndpointConfig)} :
    (∃ entries, Go.decodeEndpoints env (value.map (mapEndpoints.mapEntries fun _ => Go.stripEntry)) =
        .ok entries ∧
      mapEach (fun _ e => do
        mapErr (·.wrap ("endpoint " ++ env.quote e.1 ++ ": ")) (Go.validateClientEndpointAlias env e.1)
        let endpoint ← Go.normalizeClientEndpoint env e.1 e.2
        pure (e.1, endpoint)) 0 entries = .ok configs) ↔
      ∃ entries, entriesOf value = some entries ∧ EntriesRead .go env entries configs := by
  have hempty : mapEach (fun _ (e : String × Go.RawEndpoint) => do
      mapErr (·.wrap ("endpoint " ++ env.quote e.1 ++ ": ")) (Go.validateClientEndpointAlias env e.1)
      let endpoint ← Go.normalizeClientEndpoint env e.1 e.2
      pure (e.1, endpoint)) 0 [] = .ok configs ↔ EntriesRead .go env [] configs := by
    unfold EntriesRead
    rw [List.forall₂_nil_left_iff]
    simp [mapEach, eq_comm]
  cases value with
  | none => simpa [Go.decodeEndpoints, entriesOf] using hempty
  | some value =>
    cases value with
    | null => simpa [Go.decodeEndpoints, entriesOf, mapEndpoints.mapEntries] using hempty
    | obj entries =>
      simp only [Option.map_some, mapEndpoints.mapEntries, Go.decodeEndpoints, entriesOf,
        Option.some.injEq, exists_eq_left']
      rw [mapEach_map, mapEach_comp]
      have hentry : ∀ (e : String × Json) (c : String × ClientEndpointConfig),
          (∃ r : String × Go.RawEndpoint, (do
              let endpoint ← Go.decodeEndpoint env (Go.stripEntry e.2)
              pure (e.1, endpoint) : Except SdkError (String × Go.RawEndpoint)) = .ok r ∧
            (do
              mapErr (·.wrap ("endpoint " ++ env.quote r.1 ++ ": ")) (Go.validateClientEndpointAlias env r.1)
              let endpoint ← Go.normalizeClientEndpoint env r.1 r.2
              pure (r.1, endpoint) : Except SdkError (String × ClientEndpointConfig)) = .ok c) ↔
          c.1 = e.1 ∧ ValidAlias e.1 ∧ EntryReads .go env e.2 c.2 := by
        intro e c
        simp only [bind_eq_ok, mapErr_ok, validateClientEndpointAlias_ok, exists_const, pure_eq_ok]
        rw [← go_entry_ok e.1]
        constructor
        · rintro ⟨r, ⟨raw, hraw, rfl⟩, halias, endpoint, hendpoint, rfl⟩
          exact ⟨rfl, halias, raw, hraw, hendpoint⟩
        · rintro ⟨hname, halias, raw, hraw, hendpoint⟩
          exact ⟨(e.1, raw), ⟨raw, hraw, rfl⟩, halias, c.2, hendpoint, by rw [← hname]⟩
      exact ⟨fun h => h.imp fun e c => (hentry e c).mp, fun h => h.imp fun e c => (hentry e c).mpr⟩
    | _ => simp [Go.decodeEndpoints, entriesOf, mapEndpoints.mapEntries]

theorem requireText_ok {label : String} {value : Option Json} {text : String}
    (h : fieldText value = some text) :
    Go.requireYAMLScalarType label ["!!str", "!!null"] value = .ok () := by
  unfold Go.requireYAMLScalarType
  rw [checkSome_ok]
  intro v hv
  rw [hv] at h
  rw [failIf_ok, not_not]
  cases v with
  | null => decide
  | str s => simp [Go.shortTag]
  | _ => cases h

/-- What decodes has the types Go asks for beforehand. -/
theorem checkEntry_ok {name : String} {entry : Json} {c : ClientEndpointConfig}
    (h : EntryReads .go env entry c) :
    Go.validateClientEndpointRegistryScalarTypes.checkEntry env name (Go.stripEntry entry) = .ok () := by
  have hkept : ∀ field ∈ endpointFields, Go.isRetiredClientEndpointField field = false := by decide
  have htext : ∀ field ∈ endpointFields, ∃ text, fieldText (entry.get? field) = some text := by
    obtain ⟨-, ⟨role, hrole, -⟩, ⟨url, hurl, -⟩, ⟨identity, hid, -⟩, ⟨known, hkh, -⟩⟩ := h
    intro field hfield
    simp only [endpointFields, List.mem_cons, List.not_mem_nil, or_false] at hfield
    rcases hfield with rfl | rfl | rfl | rfl
    · exact ⟨role, hrole⟩
    · exact ⟨url, hurl⟩
    · exact ⟨identity, hid⟩
    · exact ⟨known, hkh⟩
  obtain ⟨⟨members, rfl, -⟩, -⟩ := h
  show forEach (fun _ field => Go.requireYAMLScalarType ("endpoint " ++ env.quote name ++ " " ++ field)
    ["!!str", "!!null"] ((Go.stripEntry (.obj members)).get? field)) 0 endpointFields = .ok ()
  rw [forEach_ok]
  intro j field hfield
  have hmem := List.mem_of_getElem? hfield
  obtain ⟨text, heq⟩ := htext field hmem
  rw [get?_stripEntry (hkept field hmem)]
  exact requireText_ok heq

theorem scalarTypes_ok {raw : Json} {configs : List (String × ClientEndpointConfig)} {default : String}
    (h : DocReads .go env source raw configs default) :
    Go.validateClientEndpointRegistryScalarTypes env (Go.stripRetiredClientEndpointFields raw) = .ok () := by
  obtain ⟨⟨members, rfl, -⟩, hversion, ⟨entries, hentries, hread⟩, ⟨text, htext, -⟩⟩ := h
  have hget := fun name (hname : name ≠ "endpoints") =>
    get?_mapEndpoints (f := fun _ => Go.stripEntry) hname (.obj members)
  have hversion' : Go.requireYAMLScalarType "schema_version" ["!!int"]
      ((Go.stripRetiredClientEndpointFields (.obj members)).get? "schema_version") = .ok () := by
    unfold Go.stripRetiredClientEndpointFields
    rw [hget "schema_version" (by decide), (isSchemaVersion_iff (by simp)).mp hversion]
    rfl
  have hdefault' : Go.requireYAMLScalarType "default" ["!!str", "!!null"]
      ((Go.stripRetiredClientEndpointFields (.obj members)).get? "default") = .ok () := by
    unfold Go.stripRetiredClientEndpointFields
    rw [hget "default" (by decide)]
    exact requireText_ok htext
  unfold Go.validateClientEndpointRegistryScalarTypes
  show (Go.requireYAMLScalarType "schema_version" ["!!int"] _ >>= fun _ => _) = _
  rw [seq_eq_ok, seq_eq_ok]
  refine ⟨hversion', hdefault', ?_⟩
  have hendpoints := get?_endpoints (fun _ => Go.stripEntry) (.obj members)
  unfold Go.stripRetiredClientEndpointFields
  rw [hendpoints]
  cases hvalue : (Json.obj members).get? "endpoints" with
  | none => rfl
  | some value =>
    rw [hvalue] at hentries
    cases value with
    | obj entries' =>
      cases hentries
      show forEach (fun _ e => Go.validateClientEndpointRegistryScalarTypes.checkEntry env e.1 e.2) 0
        (entries.map fun e => (e.1, Go.stripEntry e.2)) = .ok ()
      rw [forEach_ok]
      intro j e he
      obtain ⟨e', he', rfl⟩ := List.mem_map.mp (List.mem_of_getElem? he)
      obtain ⟨i, hi, rfl⟩ := List.getElem_of_mem he'
      have hlen := hread.length_eq
      have hpair := (List.forall₂_iff_get.mp hread).2 i hi (by omega)
      exact checkEntry_ok hpair.2.2
    | _ => rfl

/-! ### The loaders -/

variable {raw : Json} {reg : ClientEndpointRegistry}

/-- A registry as a loader returns it. -/
def Language.Loads (l : Language) (env : EndpointEnv) (source : String) (raw : Json)
    (reg : ClientEndpointRegistry) : Prop :=
  ∃ configs default, DocReads l env source raw configs default ∧
    Settles (l.registry configs).endpoints default reg.default ∧
    reg = { l.registry configs with default := reg.default }

theorem go_load_iff : Go.loadClientEndpointRegistry env raw = .ok reg ↔ Language.go.Loads env source raw reg := by
  have hget := fun name (hname : name ≠ "endpoints") =>
    get?_mapEndpoints (f := fun _ => Go.stripEntry) hname raw
  have hversion := hget "schema_version" (by decide)
  have hdefault := hget "default" (by decide)
  have hendpoints := get?_endpoints (fun _ => Go.stripEntry) raw
  constructor
  · intro h
    unfold Go.loadClientEndpointRegistry at h
    simp only [bind_eq_ok, mapErr_ok, failIf_ok, not_not] at h
    obtain ⟨-, -, version, hheader, -, rfl, h⟩ := h
    cases raw with
    | obj members =>
      simp only [Go.stripRetiredClientEndpointFields] at hheader h
      simp only [mapEndpoints] at hversion hdefault hendpoints hheader h
      simp only [bind_eq_ok, failIf_ok, decodeText_ok, normalizeClientEndpointRoles_ok, pure_eq_ok] at h
      obtain ⟨-, hknown, text, htext, entries, hdecode, configs, hconfigs, out, ⟨halias, hsettles⟩, rfl⟩ := h
      rw [hdefault] at htext
      rw [hendpoints] at hdecode
      have hread := go_entries_ok.mp ⟨entries, hdecode, hconfigs⟩
      refine ⟨configs, Language.go.strip text, ⟨⟨members, rfl, ?_⟩, ?_, hread, ⟨text, htext, rfl, halias⟩⟩,
        hsettles, rfl⟩
      · simpa using hknown
      · simp only [Go.headerVersion] at hheader
        rw [hversion] at hheader
        cases hv : (Json.obj members).get? "schema_version" with
        | none =>
          rw [hv] at hheader
          cases hheader
        | some value =>
          rw [hv] at hheader
          cases value with
          | int n =>
            cases hheader
            exact (isSchemaVersion_iff (by simp)).mpr rfl
          | _ => cases hheader
    | null => cases hheader
    | _ => cases hheader
  · rintro ⟨configs, default, hdoc, hsettles, hreg⟩
    have hscalars := scalarTypes_ok hdoc
    obtain ⟨⟨members, rfl, hknown⟩, hv, hentries, ⟨text, htext, rfl, halias⟩⟩ := hdoc
    have hv := (isSchemaVersion_iff (by simp)).mp hv
    obtain ⟨entries, hdecode, hconfigs⟩ := go_entries_ok.mpr hentries
    unfold Go.loadClientEndpointRegistry
    simp only [bind_eq_ok, mapErr_ok, failIf_ok, not_not]
    refine ⟨(), hscalars, clientEndpointSchemaVersion, ?_, (), rfl, ?_⟩
    · simp only [Go.stripRetiredClientEndpointFields, mapEndpoints] at hversion ⊢
      simp only [Go.headerVersion]
      rw [hversion, hv]
    · simp only [Go.stripRetiredClientEndpointFields]
      simp only [mapEndpoints] at hdefault hendpoints ⊢
      simp only [bind_eq_ok, failIf_ok, decodeText_ok, normalizeClientEndpointRoles_ok, pure_eq_ok]
      refine ⟨(), by simpa using hknown, text, hdefault ▸ htext, entries, hendpoints ▸ hdecode, configs, hconfigs,
        reg.default, ⟨halias, hsettles⟩, hreg.symm⟩

theorem docReads_iff {configs : List (String × ClientEndpointConfig)} {default : String} :
    DocReads l env source raw configs default ↔ ∃ entries, checkDocument l env source raw = .ok entries ∧
      normalizeEntries l env entries = .ok configs ∧ documentDefault l raw = .ok default := by
  simp only [checkDocument_ok, normalizeEntries_ok, documentDefault_ok]
  constructor
  · rintro ⟨hmembers, hversion, ⟨entries, hentries, hread⟩, hdefault⟩
    exact ⟨entries, ⟨hmembers, hversion, hentries⟩, hread, hdefault⟩
  · rintro ⟨entries, ⟨hmembers, hversion, hentries⟩, hread, hdefault⟩
    exact ⟨hmembers, hversion, ⟨entries, hentries, hread⟩, hdefault⟩

/-- A document with a version is not empty. -/
theorem DocReads.ne_empty {configs : List (String × ClientEndpointConfig)} {default : String}
    (h : DocReads l env source raw configs default) : ∃ m members, raw = .obj (m :: members) := by
  obtain ⟨⟨members, rfl, -⟩, hversion, -⟩ := h
  cases members with
  | nil => cases l <;> cases hversion
  | cons m members => exact ⟨m, members, rfl⟩

/-- Only TypeScript looks at how the version is written. -/
theorem docReads_source (source : String) (hl : l ≠ .typescript)
    {configs : List (String × ClientEndpointConfig)} {default : String} :
    DocReads l env "" raw configs default ↔ DocReads l env source raw configs default := by
  have hversion : l.isSchemaVersion "" (raw.get? "schema_version") =
      l.isSchemaVersion source (raw.get? "schema_version") := by
    rw [Bool.eq_iff_iff, isSchemaVersion_iff hl, isSchemaVersion_iff hl]
  exact ⟨fun h => { h with version := hversion ▸ h.version }, fun h => { h with version := hversion ▸ h.version }⟩

theorem docReads_python (raw : Json) {configs : List (String × ClientEndpointConfig)} {default : String} :
    DocReads l env source (Python.orEmpty raw) configs default ↔ DocReads l env source raw configs default := by
  unfold Python.orEmpty
  by_cases htruthy : raw.truthy false = true
  · rw [if_pos htruthy]
  · rw [if_neg htruthy]
    constructor
    · intro h
      obtain ⟨m, members, hne⟩ := h.ne_empty
      cases hne
    · intro h
      obtain ⟨m, members, rfl⟩ := h.ne_empty
      exact absurd rfl htruthy

theorem docReads_typescript (raw : Json) {configs : List (String × ClientEndpointConfig)} {default : String} :
    DocReads l env source (TypeScript.orEmpty raw) configs default ↔ DocReads l env source raw configs default := by
  cases raw with
  | null =>
    constructor
    · intro h
      obtain ⟨m, members, hne⟩ := h.ne_empty
      cases hne
    · intro h
      obtain ⟨m, members, hne⟩ := h.ne_empty
      cases hne
  | _ => rfl

theorem python_load_iff :
    Python.loadClientEndpointRegistry env raw = .ok reg ↔ Language.python.Loads env source raw reg := by
  unfold Python.loadClientEndpointRegistry Language.Loads
  simp only [← docReads_source source (show Language.python ≠ .typescript by simp),
    ← docReads_python raw, docReads_iff, bind_eq_ok, pure_eq_ok]
  constructor
  · rintro ⟨entries, hcheck, configs, hconfigs, ⟨⟩, hcosigners, default, hdefault, out, hsigner, rfl⟩
    exact ⟨configs, default, ⟨entries, hcheck, hconfigs, hdefault⟩,
      settleSigner_ok.mp ⟨hcosigners, hsigner⟩, rfl⟩
  · rintro ⟨configs, default, ⟨entries, hcheck, hconfigs, hdefault⟩, hsettles, hreg⟩
    obtain ⟨hcosigners, hsigner⟩ := settleSigner_ok.mpr hsettles
    exact ⟨entries, hcheck, configs, hconfigs, (), hcosigners, default, hdefault, reg.default, hsigner,
      hreg.symm⟩

theorem typescript_load_iff :
    TypeScript.loadClientEndpointRegistry env source raw = .ok reg ↔ Language.typescript.Loads env source raw reg := by
  unfold TypeScript.loadClientEndpointRegistry Language.Loads
  simp only [← docReads_typescript raw, docReads_iff, bind_eq_ok, pure_eq_ok]
  constructor
  · rintro ⟨entries, hcheck, configs, hconfigs, default, hdefault, ⟨⟩, hcosigners, out, hsigner, rfl⟩
    exact ⟨configs, default, ⟨entries, hcheck, hconfigs, hdefault⟩,
      settleSigner_ok.mp ⟨hcosigners, hsigner⟩, rfl⟩
  · rintro ⟨configs, default, ⟨entries, hcheck, hconfigs, hdefault⟩, hsettles, hreg⟩
    obtain ⟨hcosigners, hsigner⟩ := settleSigner_ok.mpr hsettles
    exact ⟨entries, hcheck, configs, hconfigs, default, hdefault, (), hcosigners, reg.default, hsigner,
      hreg.symm⟩

/-- **What the loaders accept**, and the registry they return. -/
theorem load_iff : l.loadClientEndpointRegistry env source raw = .ok reg ↔ l.Loads env source raw reg := by
  cases l with
  | go => exact go_load_iff
  | python => exact python_load_iff
  | typescript => exact typescript_load_iff

end Pieces

end AplaneSdk
