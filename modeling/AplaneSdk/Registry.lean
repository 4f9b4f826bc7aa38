/-
# One registry in three languages

What a loaded registry promises: it has the document's aliases, at most one
signer and twelve cosigners, the signer for its default, and an alias resolves
exactly when the document has it. Go and Python keep the promise for every
document and alias. TypeScript keeps it unless the document uses the alias
`__proto__`, or the alias asked for is a property of `Object.prototype` that the
document does not define. The retired fields change nothing anywhere
(`load_retired`). A document loads in the three alike when the three trim the
same blanks from its roles and its default (`all_load_iff`).

Key definitions: `documentAliases`, `Served`, `OwnAliases`, `TrimsAlike`,
`VersionAlike`, `WellFormedUrls`, `OnlyRetired`.
Key theorems: `strip_eq_plain`, `load_retired`, `served_iff`, `all_load_iff`,
`endpointRegistry_exact`.
-/
import AplaneSdk.Endpoints

namespace AplaneSdk

open Lines Checks

/-! ### What a registry is for -/

def documentEntries (raw : Json) : List (String × Json) := (entriesOf (raw.get? "endpoints")).getD []

def documentAliases (raw : Json) : List String := (documentEntries raw).map (·.1)

/-- The promises of a registry, with those of resolving `name`. -/
structure Served (l : Language) (env : EndpointEnv) (raw : Json) (reg : ClientEndpointRegistry)
    (name : String) : Prop where
  aliases : (reg.endpoints.map (·.1)).Perm (documentAliases raw)
  signer : (signerAliases reg.endpoints).length ≤ 1
  cosigners : cosignerCount reg.endpoints ≤ 12
  default_empty : reg.default = "" ↔ signerAliases reg.endpoints = []
  default_signer : ∀ a ∈ signerAliases reg.endpoints, reg.default = a
  resolves : (∃ out, resolveClientEndpoint l env reg name = .ok out) ↔ name ∈ documentAliases raw
  resolved : ∀ out, resolveClientEndpoint l env reg name = .ok out →
    ∃ entry c, (name, entry) ∈ documentEntries raw ∧ EntryReads l env entry c ∧ out = (name, .endpoint c)
  unnamed : ∀ out, resolveClientEndpoint l env reg "" = .ok out ↔
    ∃ e ∈ reg.endpoints, e.2.role = .signer ∧ out = (e.1, .endpoint e.2)

/-- No alias of the document is `__proto__`, and `name` is found in no
prototype. -/
structure OwnAliases (raw : Json) (name : String) : Prop where
  proto : "__proto__" ∉ documentAliases raw
  own : name ∈ objectPrototype → name ∈ documentAliases raw

/-- The languages trim the same blanks from the roles and the default. -/
structure TrimsAlike (raw : Json) : Prop where
  roles : ∀ (l l' : Language), ∀ e ∈ documentEntries raw, ∀ text,
    fieldText (e.2.get? "role") = some text → l.strip text = l'.strip text
  default : ∀ (l l' : Language) text, fieldText (raw.get? "default") = some text →
    l.strip text = l'.strip text

/-- The version is an int, and written as a decimal integer where it is written
as a scalar. -/
structure VersionAlike (source : String) (raw : Json) : Prop where
  value : raw.get? "schema_version" = some (.int clientEndpointSchemaVersion)
  source : source = "" ∨ isDecimalInteger source = true

/-- Each language's library reads the URLs of the document as ssh URLs with a
host and a port in range. -/
def WellFormedUrls (env : Language → EndpointEnv) (raw : Json) : Prop :=
  ∀ l : Language, ∀ e ∈ documentEntries raw, ∀ text,
    fieldText (e.2.get? "url") = some text → UrlOk (env l) (dropSlashes (l.strip text))

/-! ### Trimmed names -/

/-- The characters of `s` that an alias may have. -/
def plainText (s : String) : String := String.ofList (s.toList.filter aliasChar)

theorem blank_of_aliasChar (l : Language) (c : Char) (h : aliasChar c = true) : l.blank c = false := by
  have hrange : (45 ≤ c.toNat ∧ c.toNat ≤ 122) := by
    unfold aliasChar Char.isAlphanum Char.isAlpha Char.isUpper Char.isLower Char.isDigit at h
    simp only [Bool.or_eq_true, Bool.and_eq_true, decide_eq_true_eq, beq_iff_eq, UInt32.le_iff_toNat_le,
      ge_iff_le] at h
    have hnat : c.val.toNat = c.toNat := rfl
    rw [hnat] at h
    rcases h with ((h | rfl) | rfl) | rfl
    · simp at h
      omega
    · decide
    · decide
    · decide
  cases l <;> simp only [Language.blank, isUnicodeSpace, isWhiteSpace, Bool.or_eq_false_iff,
    Bool.and_eq_false_iff, decide_eq_false_iff_not, beq_eq_false_iff_ne] <;> omega

/-- A name that comes out of the blanks is the same in every language. -/
theorem strip_eq_plain {l : Language} {s : String} (h : (l.strip s).toList.all aliasChar = true) :
    l.strip s = plainText s := by
  unfold Language.strip at h ⊢
  unfold plainText
  rw [String.toList_ofList] at h
  rw [← filter_trim (blank_of_aliasChar l), List.filter_eq_self.mpr (List.all_eq_true.mp h)]

theorem plain_of_parseRole {role : String} {r : EndpointRole} (h : parseRole role = some r) :
    role.toList.all aliasChar = true := by
  unfold parseRole at h
  split at h
  · rename_i hrole
    rw [hrole]
    decide
  · split at h
    · rename_i hrole
      rw [hrole]
      decide
    · cases h

/-! ### Retired fields -/

section Retired

variable {l : Language} {env : EndpointEnv} {source : String} {g : String → List (String × Json) → List (String × Json)}

/-- An edit of the fields of each entry. -/
def editFields (g : String → List (String × Json) → List (String × Json)) (name : String) : Json → Json
  | .obj fields => .obj (g name fields)
  | entry => entry

/-- The edit adds, changes or drops retired fields and nothing else. -/
def OnlyRetired (g : String → List (String × Json) → List (String × Json)) : Prop :=
  ∀ name fields, ((g name fields).filter fun f => !Go.isRetiredClientEndpointField f.1) =
    fields.filter fun f => !Go.isRetiredClientEndpointField f.1

theorem stripEntry_editFields (hg : OnlyRetired g) (name : String) (entry : Json) :
    Go.stripEntry (editFields g name entry) = Go.stripEntry entry := by
  cases entry with
  | obj fields =>
    simp only [editFields, Go.stripEntry]
    rw [hg name fields]
  | _ => rfl

theorem get?_editFields (hg : OnlyRetired g) (name : String) (entry : Json) {field : String}
    (hfield : Go.isRetiredClientEndpointField field = false) :
    (editFields g name entry).get? field = entry.get? field := by
  rw [← get?_stripEntry hfield (editFields g name entry), stripEntry_editFields hg, get?_stripEntry hfield]

theorem mapEndpoints_mapEndpoints (f f' : String → Json → Json) (raw : Json) :
    mapEndpoints f (mapEndpoints f' raw) = mapEndpoints (fun name entry => f name (f' name entry)) raw := by
  cases raw with
  | obj members =>
    simp only [mapEndpoints, List.map_map, Json.obj.injEq]
    apply List.map_congr_left
    intro m _
    show (m.1, _) = (m.1, _)
    by_cases hm : m.1 = "endpoints"
    · simp only [hm, if_true]
      cases m.2 with
      | obj entries => simp [mapEndpoints.mapEntries]
      | _ => rfl
    · simp [hm]
  | _ => rfl

/-- The unknown fields are unknown after the edit, and there are no others. -/
theorem requireKnownFields_edit (hg : OnlyRetired g) (name : String) (fields : List (String × Json))
    (label : String) :
    requireKnownFields l (g name fields) (endpointFields ++ retiredEndpointFields) label =
      requireKnownFields l fields (endpointFields ++ retiredEndpointFields) label := by
  have hunknown : ∀ fields : List (String × Json),
      ((fields.map (·.1)).filter fun name => !(endpointFields ++ retiredEndpointFields).contains name) =
        (((fields.filter fun f => !Go.isRetiredClientEndpointField f.1).map (·.1)).filter
          fun name => !endpointFields.contains name) := by
    intro fields
    rw [List.filter_map, List.filter_map, List.filter_filter]
    congr 1
    apply List.filter_congr
    intro f _
    simp [Go.isRetiredClientEndpointField]
  unfold requireKnownFields
  rw [hunknown, hunknown, hg name fields]

theorem normalizeEndpoint_edit (hg : OnlyRetired g) (name : String) (entry : Json) :
    normalizeEndpoint l env name (editFields g name entry) = normalizeEndpoint l env name entry := by
  have hkept : ∀ field ∈ endpointFields, Go.isRetiredClientEndpointField field = false := by decide
  have hget := fun field hfield => get?_editFields hg name entry (hkept field hfield)
  unfold normalizeEndpoint
  rw [hget "role" (by decide), hget "url" (by decide), hget "identity_file" (by decide),
    hget "known_hosts_path" (by decide)]
  cases entry with
  | obj fields =>
    show (requireKnownFields l (g name fields) _ _ >>= fun _ => _) =
      (requireKnownFields l fields _ _ >>= fun _ => _)
    rw [requireKnownFields_edit hg]
  | _ => rfl

theorem normalizeEntries_edit (hg : OnlyRetired g) (entries : List (String × Json)) :
    normalizeEntries l env (entries.map fun e => (e.1, editFields g e.1 e.2)) =
      normalizeEntries l env entries := by
  unfold normalizeEntries
  rw [mapEach_map]
  simp only [normalizeEndpoint_edit hg]

theorem endpointEntries_map (f : String → Json → Json) (raw : Json) :
    endpointEntries (mapEndpoints f raw) =
      (endpointEntries raw).map (List.map fun e => (e.1, f e.1 e.2)) := by
  unfold endpointEntries
  rw [get?_endpoints]
  cases raw.get? "endpoints" with
  | none => rfl
  | some value => cases value <;> rfl

theorem checkDocument_map (f : String → Json → Json) (raw : Json) :
    checkDocument l env source (mapEndpoints f raw) =
      (checkDocument l env source raw).map (List.map fun e => (e.1, f e.1 e.2)) := by
  have hversion := get?_mapEndpoints (f := f) (show "schema_version" ≠ "endpoints" by decide) raw
  have hentries := endpointEntries_map f raw
  unfold checkDocument
  rw [hversion, hentries]
  cases raw with
  | obj members =>
    have hknown : requireKnownFields l (members.map fun m =>
        (m.1, if m.1 = "endpoints" then mapEndpoints.mapEntries f m.2 else m.2)) documentFields
          clientEndpointsFile = requireKnownFields l members documentFields clientEndpointsFile := by
      unfold requireKnownFields
      rw [List.map_map]
      rfl
    show (requireKnownFields l _ documentFields clientEndpointsFile >>= fun _ => _) =
      (requireKnownFields l members documentFields clientEndpointsFile >>= fun _ => _).map _
    rw [hknown]
    cases requireKnownFields l members documentFields clientEndpointsFile with
    | error e => rfl
    | ok u =>
      show (failIf _ _ >>= fun _ => _) = (failIf _ _ >>= fun _ => _).map _
      cases failIf (l.isSchemaVersion source ((Json.obj members).get? "schema_version") = false) _ with
      | error e => rfl
      | ok u => rfl
  | _ => rfl

/-- **Retired fields change nothing**: not what loads, and not why it does
not. -/
theorem load_retired (hg : OnlyRetired g) (raw : Json) :
    l.loadClientEndpointRegistry env source (mapEndpoints (editFields g) raw) =
      l.loadClientEndpointRegistry env source raw := by
  have hdefault := get?_mapEndpoints (f := editFields g) (show "default" ≠ "endpoints" by decide)
  cases l with
  | go =>
    have hstrip : Go.stripRetiredClientEndpointFields (mapEndpoints (editFields g) raw) =
        Go.stripRetiredClientEndpointFields raw := by
      unfold Go.stripRetiredClientEndpointFields
      rw [mapEndpoints_mapEndpoints]
      simp only [stripEntry_editFields hg]
    simp only [Language.loadClientEndpointRegistry, Go.loadClientEndpointRegistry, hstrip]
  | python =>
    have hempty : Python.orEmpty (mapEndpoints (editFields g) raw) =
        mapEndpoints (editFields g) (Python.orEmpty raw) := by
      have htruthy : (mapEndpoints (editFields g) raw).truthy false = raw.truthy false := by
        cases raw with
        | obj members => cases members <;> rfl
        | _ => rfl
      unfold Python.orEmpty
      rw [htruthy]
      by_cases hraw : raw.truthy false = true
      · rw [if_pos hraw, if_pos hraw]
      · rw [if_neg hraw, if_neg hraw]
        rfl
    simp only [Language.loadClientEndpointRegistry, Python.loadClientEndpointRegistry, hempty,
      checkDocument_map, documentDefault, hdefault]
    cases checkDocument .python env "" (Python.orEmpty raw) with
    | error e => rfl
    | ok entries =>
      show (normalizeEntries .python env (entries.map fun e => (e.1, editFields g e.1 e.2)) >>= fun _ => _) = _
      rw [normalizeEntries_edit hg]
      rfl
  | typescript =>
    have hempty : TypeScript.orEmpty (mapEndpoints (editFields g) raw) =
        mapEndpoints (editFields g) (TypeScript.orEmpty raw) := by
      cases raw <;> rfl
    simp only [Language.loadClientEndpointRegistry, TypeScript.loadClientEndpointRegistry, hempty,
      checkDocument_map, documentDefault, hdefault]
    cases checkDocument .typescript env source (TypeScript.orEmpty raw) with
    | error e => rfl
    | ok entries =>
      show (normalizeEntries .typescript env (entries.map fun e => (e.1, editFields g e.1 e.2)) >>=
        fun _ => _) = _
      rw [normalizeEntries_edit hg]
      rfl

end Retired

/-! ### The entries of a registry -/

section Entries

variable {l : Language} {env : EndpointEnv} {source : String} {raw : Json} {reg : ClientEndpointRegistry}
  {name : String}
  {configs : List (String × ClientEndpointConfig)} {default : String}

theorem foldl_setEndpoint : ∀ (configs : List (String × ClientEndpointConfig)) (reg : ClientEndpointRegistry),
    (configs.foldl TypeScript.setEndpoint reg).endpoints =
        reg.endpoints ++ configs.filter (fun e => e.1 ≠ "__proto__") ∧
      (configs.foldl TypeScript.setEndpoint reg).default = reg.default ∧
      ("__proto__" ∉ configs.map (·.1) → (configs.foldl TypeScript.setEndpoint reg).proto = reg.proto)
  | [], reg => by simp
  | e :: configs, reg => by
    obtain ⟨hendpoints, hdefault, hnone⟩ := foldl_setEndpoint configs (TypeScript.setEndpoint reg e)
    rw [List.foldl_cons, hendpoints, hdefault]
    by_cases he : e.1 = "__proto__"
    · refine ⟨?_, ?_, fun hproto => absurd (List.mem_cons.mpr (.inl he.symm)) hproto⟩
      · rw [List.filter_cons_of_neg (by simp [he])]
        simp [TypeScript.setEndpoint, he]
      · simp [TypeScript.setEndpoint, he]
    · refine ⟨?_, ?_, fun hproto => ?_⟩
      · rw [List.filter_cons_of_pos (by simp [he])]
        simp [TypeScript.setEndpoint, he]
      · simp [TypeScript.setEndpoint, he]
      · have hrest : "__proto__" ∉ configs.map (·.1) :=
          fun hmem => hproto (List.mem_cons_of_mem _ hmem)
        rw [hnone hrest]
        simp [TypeScript.setEndpoint, he]

/-- Where no alias is `__proto__` the registry has the entries, all of them. -/
theorem registry_of_own (h : l = .typescript → "__proto__" ∉ configs.map (·.1)) :
    l.registry configs = { endpoints := configs } := by
  cases l with
  | go => rfl
  | python => rfl
  | typescript =>
    have hproto := h rfl
    obtain ⟨hendpoints, hdefault, hnone⟩ := foldl_setEndpoint configs {}
    have hkeep : configs.filter (fun e => e.1 ≠ "__proto__") = configs := by
      rw [List.filter_eq_self]
      intro e he
      have hne : e.1 ≠ "__proto__" := by
        intro heq
        apply hproto
        rw [← heq]
        exact List.mem_map_of_mem he
      simpa using hne
    have hproto' := hnone hproto
    show configs.foldl TypeScript.setEndpoint {} = _
    rw [hkeep] at hendpoints
    cases hreg : configs.foldl TypeScript.setEndpoint {} with
    | mk d e p =>
      rw [hreg] at hendpoints hproto' hdefault
      cases hendpoints
      cases hproto'
      cases hdefault
      rfl

theorem EntriesRead.aliases {entries : List (String × Json)} (h : EntriesRead l env entries configs) :
    configs.map (·.1) = entries.map (·.1) := by
  unfold EntriesRead at h
  induction h with
  | nil => rfl
  | cons hhead _ ih => rw [List.map_cons, List.map_cons, hhead.1, ih]

theorem EntriesRead.entry {entries : List (String × Json)} (h : EntriesRead l env entries configs)
    {e : String × ClientEndpointConfig} (he : e ∈ configs) :
    ∃ entry, (e.1, entry) ∈ entries ∧ ValidAlias e.1 ∧ EntryReads l env entry e.2 := by
  unfold EntriesRead at h
  induction h with
  | nil => cases he
  | cons hhead _ ih =>
    obtain ⟨hname, halias, hread⟩ := hhead
    rcases List.mem_cons.mp he with rfl | he
    · exact ⟨_, List.mem_cons.mpr (.inl (by rw [hname])), hname ▸ halias, hread⟩
    · obtain ⟨entry, hmem, hok⟩ := ih he
      exact ⟨entry, List.mem_cons_of_mem _ hmem, hok⟩

theorem DocReads.entriesRead (h : DocReads l env source raw configs default) :
    EntriesRead l env (documentEntries raw) configs := by
  obtain ⟨entries, hentries, hread⟩ := h.entries
  unfold documentEntries
  rw [hentries]
  exact hread

theorem DocReads.aliases (h : DocReads l env source raw configs default) :
    configs.map (·.1) = documentAliases raw := h.entriesRead.aliases

/-- What a TypeScript registry leaves out. -/
theorem proto_not_mem (h : Language.typescript.Loads env source raw reg) : "__proto__" ∉ reg.endpoints.map (·.1) := by
  obtain ⟨configs, default, -, -, hreg⟩ := h
  rw [hreg]
  show "__proto__" ∉ (configs.foldl TypeScript.setEndpoint {}).endpoints.map (·.1)
  rw [(foldl_setEndpoint configs {}).1]
  simp

/-- A registry whose aliases are its own. -/
theorem Language.Loads.own (h : l.Loads env source raw reg)
    (hproto : l = .typescript → "__proto__" ∉ documentAliases raw) :
    ∃ configs default, DocReads l env source raw configs default ∧ Settles configs default reg.default ∧
      reg = { default := reg.default, endpoints := configs } := by
  obtain ⟨configs, default, hdoc, hsettles, hreg⟩ := h
  have hown : l.registry configs = { endpoints := configs } := registry_of_own (by rwa [hdoc.aliases])
  rw [hown] at hsettles hreg
  exact ⟨configs, default, hdoc, hsettles, hreg⟩

/-! ### Resolving -/

theorem resolve_ok {out : String × Resolved} (hname : name ≠ "") :
    resolveClientEndpoint l env reg name = .ok out ↔
      ∃ r, (l.lookupEndpoint reg name).filter Resolved.truthy = some r ∧ out = (name, r) := by
  simp only [resolveClientEndpoint, if_neg hname]
  rw [seq_eq_ok, failIf_ok]
  cases (l.lookupEndpoint reg name).filter Resolved.truthy with
  | none => simp [signerError]
  | some r =>
    rw [pure_eq_ok]
    simp [hname, eq_comm]

theorem resolve_default (env : EndpointEnv) (reg : ClientEndpointRegistry) :
    resolveClientEndpoint l env reg "" = resolveClientEndpoint l env reg reg.default := by
  unfold resolveClientEndpoint
  by_cases hempty : reg.default = ""
  · simp [hempty]
  · simp [hempty]

/-- Where the aliases are the registry's own, a name is looked up among them
and nowhere else. -/
theorem lookup_own {default : String} (hown : l = .typescript → name ∈ objectPrototype → name ∈ configs.map (·.1)) :
    (l.lookupEndpoint { default := default, endpoints := configs } name).filter Resolved.truthy =
      (configs.lookup name).map .endpoint := by
  have hendpoint : ∀ o : Option ClientEndpointConfig,
      (o.map Resolved.endpoint).filter Resolved.truthy = o.map .endpoint := by
    intro o
    cases o <;> rfl
  cases l with
  | go => exact hendpoint _
  | python => exact hendpoint _
  | typescript =>
    simp only [Language.lookupEndpoint, Option.bind_none, Option.none_or]
    cases hlookup : configs.lookup name with
    | some c => rfl
    | none =>
      have hnot : name ∉ objectPrototype := by
        intro hproto
        obtain ⟨e, he, heq⟩ := List.mem_map.mp (hown rfl hproto)
        have hne := List.lookup_eq_none_iff.mp hlookup e he
        simp [heq] at hne
      rw [if_neg hnot]
      rfl

theorem lookup_isSome_of_mem (h : name ∈ configs.map (·.1)) : ∃ c, configs.lookup name = some c := by
  obtain ⟨e, he, heq⟩ := List.mem_map.mp h
  rw [← Option.isSome_iff_exists, List.lookup_isSome_iff]
  exact ⟨e, he, by simp [heq]⟩

theorem mem_of_lookup_eq {c : ClientEndpointConfig} (h : configs.lookup name = some c) :
    (name, c) ∈ configs := by
  obtain ⟨before, after, heq, -⟩ := List.lookup_eq_some_iff.mp h
  rw [heq]
  simp

theorem lookup_of_mem_nodup {e : String × ClientEndpointConfig} (hkeys : (configs.map (·.1)).Nodup)
    (he : e ∈ configs) : configs.lookup e.1 = some e.2 := by
  obtain ⟨before, after, heq⟩ := List.append_of_mem he
  rw [List.lookup_eq_some_iff]
  refine ⟨before, after, heq, fun p hp => ?_⟩
  rw [heq, List.map_append, List.map_cons, List.nodup_append] at hkeys
  have hne := hkeys.2.2 p.1 (List.mem_map_of_mem hp) e.1 (List.mem_cons_self ..)
  simpa using Ne.symm hne

/-! ### The promises -/

theorem mem_signerAliases {endpoints : List (String × ClientEndpointConfig)} {a : String} :
    a ∈ signerAliases endpoints ↔ ∃ e ∈ endpoints, e.2.role = .signer ∧ e.1 = a := by
  unfold signerAliases
  simp only [List.mem_map, List.mem_filter, decide_eq_true_eq, and_assoc]

/-- The default is no alias, or that of the signer, which is not empty. -/
theorem DocReads.signer_ne_empty (h : DocReads l env source raw configs default) {a : String}
    (ha : a ∈ signerAliases configs) : a ≠ "" := by
  obtain ⟨e, he, -, rfl⟩ := mem_signerAliases.mp ha
  obtain ⟨entry, -, halias, -⟩ := h.entriesRead.entry he
  exact halias.1

/-- Resolving without an alias finds the signer. -/
theorem unnamed_ok (hdoc : DocReads l env source raw configs default) (hkeys : (documentAliases raw).Nodup)
    {final : String} (hsettles : Settles configs default final) (out : String × Resolved) :
    resolveClientEndpoint l env { default := final, endpoints := configs } "" = .ok out ↔
      ∃ e ∈ configs, e.2.role = .signer ∧ out = (e.1, .endpoint e.2) := by
  rw [← hdoc.aliases] at hkeys
  rw [resolve_default]
  rcases hsettles.default with ⟨hnone, -, hfinal⟩ | ⟨a, hone, -, hfinal⟩
  · constructor
    · intro h
      rw [hfinal] at h
      cases h
    · rintro ⟨e, he, hrole, -⟩
      have hmem : e.1 ∈ signerAliases configs := mem_signerAliases.mpr ⟨e, he, hrole, rfl⟩
      rw [hnone] at hmem
      cases hmem
  · have hmem : a ∈ signerAliases configs := by
      rw [hone]
      exact List.mem_singleton_self a
    obtain ⟨e, he, hrole, hea⟩ := mem_signerAliases.mp hmem
    have hne := hdoc.signer_ne_empty hmem
    have hlookup := lookup_of_mem_nodup hkeys he
    rw [hfinal, resolve_ok hne, lookup_own (fun _ _ => hea ▸ List.mem_map_of_mem he), ← hea, hlookup]
    constructor
    · rintro ⟨r, hr, rfl⟩
      cases hr
      exact ⟨e, he, hrole, rfl⟩
    · rintro ⟨e', he', hrole', rfl⟩
      have hmem' : e'.1 ∈ signerAliases configs := mem_signerAliases.mpr ⟨e', he', hrole', rfl⟩
      rw [hone, List.mem_singleton, ← hea] at hmem'
      have hlookup' := lookup_of_mem_nodup hkeys he'
      rw [hmem', hlookup] at hlookup'
      exact ⟨_, rfl, by rw [hmem', Option.some.inj hlookup']⟩

/-- **When the promises are kept**: always in Go and Python, and in TypeScript
for the documents and aliases that stay clear of the prototype. -/
theorem served_iff (hkeys : (documentAliases raw).Nodup) (hname : name ≠ "") (hload : l.Loads env source raw reg) :
    Served l env raw reg name ↔ (l = .typescript → OwnAliases raw name) := by
  constructor
  · intro hserved htypescript
    rw [htypescript] at hload hserved
    have hproto : "__proto__" ∉ documentAliases raw := by
      intro hmem
      exact proto_not_mem hload (hserved.aliases.mem_iff.mpr hmem)
    refine ⟨hproto, fun hbuiltin => ?_⟩
    by_contra hmissing
    apply hmissing
    obtain ⟨configs, default, hdoc, -, hreg⟩ := hload.own fun _ => hproto
    rw [← hserved.resolves]
    have hnone : configs.lookup name = none := by
      rw [List.lookup_eq_none_iff]
      intro e he
      have hne : name ≠ e.1 := by
        intro heq
        apply hmissing
        rw [← hdoc.aliases, heq]
        exact List.mem_map_of_mem he
      simpa using hne
    refine ⟨(name, .builtin name), (resolve_ok hname).mpr ⟨.builtin name, ?_, rfl⟩⟩
    rw [hreg]
    simp only [Language.lookupEndpoint, hnone, Option.map_none, Option.none_or, Option.bind_none,
      if_pos hbuiltin]
    rfl
  · intro hown
    obtain ⟨configs, default, hdoc, hsettles, hreg⟩ := hload.own fun h => (hown h).proto
    have hlookup : (l.lookupEndpoint { default := reg.default, endpoints := configs } name).filter
        Resolved.truthy = (configs.lookup name).map .endpoint := by
      apply lookup_own
      intro h hbuiltin
      rw [hdoc.aliases]
      exact (hown h).own hbuiltin
    generalize reg.default = final at hsettles hreg hlookup
    rw [hreg]
    refine ⟨by rw [hdoc.aliases], hsettles.signer, hsettles.cosigners, ?_, ?_, ?_, ?_,
      unnamed_ok hdoc hkeys hsettles⟩
    · rcases hsettles.default with ⟨hnone, -, hfinal⟩ | ⟨a, hone, -, hfinal⟩
      · simp [hnone, hfinal]
      · have hne := hdoc.signer_ne_empty (a := a) (by simp [hone])
        simp [hone, hfinal, hne]
    · intro a ha
      rcases hsettles.default with ⟨hnone, -, -⟩ | ⟨b, hone, -, hfinal⟩
      · rw [hnone] at ha
        cases ha
      · rw [hone, List.mem_singleton] at ha
        rw [ha]
        exact hfinal
    · rw [← hdoc.aliases]
      constructor
      · rintro ⟨out, hout⟩
        obtain ⟨r, hr, -⟩ := (resolve_ok hname).mp hout
        rw [hlookup] at hr
        obtain ⟨c, hc, -⟩ := Option.map_eq_some_iff.mp hr
        exact List.mem_map_of_mem (f := (·.1)) (mem_of_lookup_eq hc)
      · intro hmem
        obtain ⟨c, hc⟩ := lookup_isSome_of_mem hmem
        exact ⟨(name, .endpoint c), (resolve_ok hname).mpr ⟨_, by rw [hlookup, hc]; rfl, rfl⟩⟩
    · intro out hout
      obtain ⟨r, hr, rfl⟩ := (resolve_ok hname).mp hout
      rw [hlookup] at hr
      obtain ⟨c, hc, rfl⟩ := Option.map_eq_some_iff.mp hr
      obtain ⟨entry, hentry, -, hread⟩ := hdoc.entriesRead.entry (mem_of_lookup_eq hc)
      exact ⟨entry, c, hentry, hread, rfl⟩

end Entries

/-! ### Agreement -/

section Agreement

variable {l l' : Language} {env : Language → EndpointEnv} {source : String} {raw : Json}

def Language.LoadsSome (l : Language) (env : Language → EndpointEnv) (source : String) (raw : Json) : Prop :=
  ∃ reg, l.loadClientEndpointRegistry (env l) source raw = .ok reg

/-- A document that loads has names within its blanks. -/
theorem plain_of_docReads {env : EndpointEnv} {configs : List (String × ClientEndpointConfig)}
    {default : String} (h : DocReads l env source raw configs default) :
    (∀ e ∈ documentEntries raw, ∀ text, fieldText (e.2.get? "role") = some text →
        l.strip text = plainText text) ∧
      ∀ text, fieldText (raw.get? "default") = some text → l.strip text = plainText text := by
  refine ⟨fun e he text htext => ?_, fun text htext => ?_⟩
  · obtain ⟨i, hi, rfl⟩ := List.getElem_of_mem he
    have hlen := h.entriesRead.length_eq
    have hpair := (List.forall₂_iff_get.mp h.entriesRead).2 i hi (by omega)
    obtain ⟨text', htext', hparse⟩ := hpair.2.2.role
    have hsame : text' = text := by
      have heq := htext'.symm.trans htext
      exact Option.some.inj heq
    rw [hsame] at hparse
    exact strip_eq_plain (plain_of_parseRole hparse)
  · obtain ⟨text', htext', rfl, halias⟩ := h.default
    have hsame : text' = text := Option.some.inj (htext'.symm.trans htext)
    rw [hsame] at halias
    apply strip_eq_plain
    rcases halias with hempty | halias
    · rw [hempty]
      rfl
    · exact halias.2

/-- The version passes everywhere just when it is an int, in decimal. -/
theorem versionAlike_iff : (∀ l : Language, l.isSchemaVersion source (raw.get? "schema_version") = true) ↔
    VersionAlike source raw := by
  have htypescript : raw.get? "schema_version" = some (.int clientEndpointSchemaVersion) →
      (Language.typescript.isSchemaVersion source (raw.get? "schema_version") = true ↔
        source = "" ∨ isDecimalInteger source = true) := by
    intro hvalue
    rw [hvalue]
    simp [Language.isSchemaVersion, Json.integer?]
  constructor
  · intro h
    have hvalue := (isSchemaVersion_iff (by simp)).mp (h .go)
    exact ⟨hvalue, (htypescript hvalue).mp (h .typescript)⟩
  · rintro ⟨hvalue, hsource⟩ l
    by_cases hl : l = .typescript
    · rw [hl]
      exact (htypescript hvalue).mpr hsource
    · exact (isSchemaVersion_iff hl).mpr hvalue

theorem endpointConfig_role (env : EndpointEnv) (role : EndpointRole) (url identityFile knownHostsPath : String) :
    (endpointConfig env role url identityFile knownHostsPath).role = role := rfl

/-- An entry reads alike where its role is trimmed alike and its URL is read. -/
theorem EntryReads.transfer {entry : Json} {c : ClientEndpointConfig} (h : EntryReads l (env l) entry c)
    (hrole : ∀ text, fieldText (entry.get? "role") = some text → l.strip text = l'.strip text)
    (hurl : ∀ text, fieldText (entry.get? "url") = some text → UrlOk (env l') (dropSlashes (l'.strip text))) :
    ∃ c', EntryReads l' (env l') entry c' ∧ c'.role = c.role := by
  obtain ⟨hfields, ⟨role, hr, hparse⟩, ⟨url, hu, -, -⟩, ⟨identity, hi, -⟩, ⟨known, hk, -⟩⟩ := h
  refine ⟨endpointConfig (env l') c.role (dropSlashes (l'.strip url)) identity known, ?_,
    endpointConfig_role ..⟩
  refine ⟨hfields, ⟨role, hr, ?_⟩, ⟨url, hu, rfl, hurl url hu⟩, ⟨identity, hi, rfl⟩, ⟨known, hk, rfl⟩⟩
  rw [← hrole role hr, hparse, endpointConfig_role]

theorem EntriesRead.transfer : ∀ {entries : List (String × Json)} {configs : List (String × ClientEndpointConfig)},
    EntriesRead l (env l) entries configs →
    (∀ e ∈ entries, ∀ text, fieldText (e.2.get? "role") = some text → l.strip text = l'.strip text) →
    (∀ e ∈ entries, ∀ text, fieldText (e.2.get? "url") = some text →
      UrlOk (env l') (dropSlashes (l'.strip text))) →
    ∃ configs', EntriesRead l' (env l') entries configs' ∧ signerAliases configs' = signerAliases configs ∧
      cosignerCount configs' = cosignerCount configs
  | [], configs, h, _, _ => by
    cases h
    exact ⟨[], .nil, rfl, rfl⟩
  | e :: entries, configs, h, hrole, hurl => by
    cases h with
    | cons hhead htail =>
      rename_i c configs
      obtain ⟨hname, halias, hread⟩ := hhead
      obtain ⟨c', hread', hsame⟩ := hread.transfer (hrole e (List.mem_cons_self ..))
        (hurl e (List.mem_cons_self ..))
      obtain ⟨configs', hread'', hsigners, hcosigners⟩ := EntriesRead.transfer htail
        (fun e he => hrole e (List.mem_cons_of_mem _ he)) (fun e he => hurl e (List.mem_cons_of_mem _ he))
      refine ⟨(e.1, c') :: configs', .cons ⟨rfl, halias, hread'⟩ hread'', ?_, ?_⟩
      · unfold signerAliases at hsigners ⊢
        by_cases hsigner : c.2.role = .signer
        · rw [List.filter_cons_of_pos (by simp [hsame, hsigner]), List.filter_cons_of_pos (by simp [hsigner]),
            List.map_cons, List.map_cons, hsigners, hname]
        · rw [List.filter_cons_of_neg (by simp [hsame, hsigner]), List.filter_cons_of_neg (by simp [hsigner]),
            hsigners]
      · unfold cosignerCount at hcosigners ⊢
        rw [List.countP_cons, List.countP_cons, hcosigners, hsame]

/-- **Who loads a document.** Once one language loads it, all do just when they
trim it alike and its version is an int, in decimal. -/
theorem all_load_iff (hproto : "__proto__" ∉ documentAliases raw) (hurls : WellFormedUrls env raw)
    (hload : l.LoadsSome env source raw) :
    (∀ l' : Language, l'.LoadsSome env source raw) ↔ TrimsAlike raw ∧ VersionAlike source raw := by
  constructor
  · intro hall
    have hversion : ∀ l' : Language, l'.isSchemaVersion source (raw.get? "schema_version") = true := by
      intro l'
      obtain ⟨reg, hreg⟩ := hall l'
      obtain ⟨_, _, hdoc, -⟩ := load_iff.mp hreg
      exact hdoc.version
    have hplain : ∀ l' : Language, (∀ e ∈ documentEntries raw, ∀ text,
        fieldText (e.2.get? "role") = some text → l'.strip text = plainText text) ∧
        ∀ text, fieldText (raw.get? "default") = some text → l'.strip text = plainText text := by
      intro l'
      obtain ⟨reg, hreg⟩ := hall l'
      obtain ⟨configs, default, hdoc, -⟩ := load_iff.mp hreg
      exact plain_of_docReads hdoc
    refine ⟨⟨fun l₁ l₂ e he text htext => ?_, fun l₁ l₂ text htext => ?_⟩, versionAlike_iff.mp hversion⟩
    · rw [(hplain l₁).1 e he text htext, (hplain l₂).1 e he text htext]
    · rw [(hplain l₁).2 text htext, (hplain l₂).2 text htext]
  · rintro ⟨htrims, hversions⟩ l'
    obtain ⟨reg, hreg⟩ := hload
    obtain ⟨configs, default, hdoc, hsettles, -⟩ := (load_iff.mp hreg).own fun _ => hproto
    obtain ⟨configs', hread, hsigners, hcosigners⟩ := hdoc.entriesRead.transfer
      (htrims.roles l l') (hurls l')
    obtain ⟨hmembers, -, ⟨entries, hentries, -⟩, ⟨text, htext, hdefault, halias⟩⟩ := hdoc
    have hentries' : documentEntries raw = entries := by
      unfold documentEntries
      rw [hentries]
      rfl
    rw [hentries'] at hread
    have hdoc' : DocReads l' (env l') source raw configs' default :=
      ⟨hmembers, versionAlike_iff.mpr hversions l', ⟨entries, hentries, hread⟩,
        ⟨text, htext, hdefault.trans (htrims.default l l' text htext), halias⟩⟩
    have hown : l'.registry configs' = { endpoints := configs' } := by
      apply registry_of_own
      intro _
      rwa [hdoc'.aliases]
    refine ⟨{ default := reg.default, endpoints := configs' }, load_iff.mpr ⟨configs', default, hdoc', ?_, ?_⟩⟩
    · rw [hown]
      refine ⟨?_, ?_, ?_⟩
      · show (signerAliases configs').length ≤ 1
        rw [hsigners]
        exact hsettles.signer
      · show cosignerCount configs' ≤ maxClientCosignerEndpoints
        rw [hcosigners]
        exact hsettles.cosigners
      · show (signerAliases configs' = [] ∧ _) ∨ _
        rw [hsigners]
        exact hsettles.default
    · rw [hown]

/-- Every language that loads the document keeps the promises, and if one loads
it, all do. -/
structure RegistryAgrees (env : Language → EndpointEnv) (source : String) (raw : Json) (name : String) : Prop where
  served : ∀ (l : Language) reg, l.loadClientEndpointRegistry (env l) source raw = .ok reg →
    Served l (env l) raw reg name
  agree : ∀ l l' : Language, l.LoadsSome env source raw → l'.LoadsSome env source raw

/-- **The endpoint registry.** A loaded registry keeps its promises in Go and
Python, and in TypeScript just when document and alias stay clear of the
prototype; retired fields change nothing; and of a document with well-formed
URLs that some language loads, everything holds in all three just when it stays
clear of the prototype, is trimmed alike and writes its version in decimal. -/
theorem endpointRegistry_exact (env : Language → EndpointEnv) (source : String) (raw : Json) (name : String)
    (hkeys : (documentAliases raw).Nodup) (hname : name ≠ "") :
    (∀ (l : Language) reg, l.loadClientEndpointRegistry (env l) source raw = .ok reg →
      (Served l (env l) raw reg name ↔ (l = .typescript → OwnAliases raw name))) ∧
    (∀ (l : Language) g, OnlyRetired g →
      l.loadClientEndpointRegistry (env l) source (mapEndpoints (editFields g) raw) =
        l.loadClientEndpointRegistry (env l) source raw) ∧
    (WellFormedUrls env raw → (∃ l : Language, l.LoadsSome env source raw) →
      (RegistryAgrees env source raw name ↔
        OwnAliases raw name ∧ TrimsAlike raw ∧ VersionAlike source raw)) := by
  have hserved : ∀ (l : Language) reg, l.loadClientEndpointRegistry (env l) source raw = .ok reg →
      (Served l (env l) raw reg name ↔ (l = .typescript → OwnAliases raw name)) :=
    fun l reg hload => served_iff hkeys hname (load_iff.mp hload)
  refine ⟨hserved, fun l g hg => load_retired hg raw, fun hurls hsome => ?_⟩
  obtain ⟨l, hload⟩ := hsome
  constructor
  · intro hagrees
    have hall : ∀ l' : Language, l'.LoadsSome env source raw := fun l' => hagrees.agree l l' hload
    obtain ⟨reg, hreg⟩ := hall .typescript
    have hown : OwnAliases raw name := (hserved _ reg hreg).mp (hagrees.served _ reg hreg) rfl
    exact ⟨hown, (all_load_iff hown.proto hurls hload).mp hall⟩
  · rintro ⟨hown, halike⟩
    have hall := (all_load_iff hown.proto hurls hload).mpr halike
    exact ⟨fun l' reg hreg => (hserved l' reg hreg).mpr fun _ => hown, fun _ l' _ => hall l'⟩

end Agreement

namespace Demo

/-- A platform that knows one URL. -/
def endpointEnv : EndpointEnv where
  parseUrl url := if url = "ssh://signer.example" then .ok ⟨"ssh", "signer.example", none⟩ else .error "unknown"
  resolvePath path := "/data/" ++ path
  endpointsPath := "/data/endpoints.yaml"
  quote := quoted
  showVersion _ := "?"
  yamlError := "yaml"

/-- A document of one entry. -/
def oneEndpoint (name role : String) : Json :=
  .obj [("schema_version", .int 2), ("endpoints", .obj [(name, .obj [("role", .str role),
    ("url", .str "ssh://signer.example")])])]

def signerConfig : ClientEndpointConfig where
  role := .signer
  url := "ssh://signer.example"
  identityFile := "/data/.ssh/id_ed25519"
  knownHostsPath := "/data/.ssh/known_hosts"

theorem primary_loads (l : Language) : l.loadClientEndpointRegistry endpointEnv "2" (oneEndpoint "primary" "signer") =
    .ok { default := "primary", endpoints := [("primary", signerConfig)] } := by
  cases l <;> decide +kernel

theorem primary_trims : TrimsAlike (oneEndpoint "primary" "signer") := by
  have hrole : ∀ l : Language, l.strip "signer" = "signer" := by
    intro l
    cases l <;> decide +kernel
  have hempty : ∀ l : Language, l.strip "" = "" := by
    intro l
    cases l <;> decide +kernel
  refine ⟨fun l l' e he text htext => ?_, fun l l' text htext => ?_⟩
  · rw [List.mem_singleton.mp he] at htext
    cases htext
    rw [hrole, hrole]
  · cases htext
    rw [hempty, hempty]

theorem primary_urls : WellFormedUrls (fun _ => endpointEnv) (oneEndpoint "primary" "signer") := by
  intro l e he text htext
  rw [List.mem_singleton.mp he] at htext
  cases htext
  have hstrip : dropSlashes (l.strip "ssh://signer.example") = "ssh://signer.example" := by
    cases l <;> decide +kernel
  have hparse : endpointEnv.parseUrl "ssh://signer.example" = .ok ⟨"ssh", "signer.example", none⟩ := by
    simp [endpointEnv]
  rw [hstrip]
  refine ⟨by decide +kernel, by decide +kernel, ⟨"ssh", "signer.example", none⟩, hparse, rfl,
    by decide +kernel, fun port hport => ?_⟩
  cases hport

/-- A document of one signer, in the three languages. -/
theorem endpointRegistry_exact_primary :
    (documentAliases (oneEndpoint "primary" "signer")).Nodup ∧ "primary" ≠ "" ∧
      RegistryAgrees (fun _ => endpointEnv) "2" (oneEndpoint "primary" "signer") "primary" := by
  have hkeys : (documentAliases (oneEndpoint "primary" "signer")).Nodup := by decide +kernel
  have hown : OwnAliases (oneEndpoint "primary" "signer") "primary" :=
    ⟨by decide +kernel, by decide +kernel⟩
  have hexact := endpointRegistry_exact (fun _ => endpointEnv) "2" (oneEndpoint "primary" "signer") "primary" hkeys
    (by decide)
  exact ⟨hkeys, by decide, (hexact.2.2 primary_urls ⟨.go, _, primary_loads .go⟩).mpr ⟨hown, primary_trims, rfl, .inr (by decide +kernel)⟩⟩

/-- TypeScript resolves `constructor` in a registry of `primary`; it loses an
entry whose alias is `__proto__`; Python alone loads a role with a file
separator after it; and TypeScript alone refuses a version written as `0x2`. -/
theorem endpointRegistry_fails :
    (TypeScript.loadClientEndpointRegistry endpointEnv "2" (oneEndpoint "primary" "signer") =
        .ok { default := "primary", endpoints := [("primary", signerConfig)] } ∧
      "constructor" ∉ documentAliases (oneEndpoint "primary" "signer") ∧
      resolveClientEndpoint .typescript endpointEnv
        { default := "primary", endpoints := [("primary", signerConfig)] } "constructor" =
          .ok ("constructor", .builtin "constructor")) ∧
    (TypeScript.loadClientEndpointRegistry endpointEnv "2" (oneEndpoint "__proto__" "signer") =
        .ok { default := "", endpoints := [], proto := some signerConfig } ∧
      Go.loadClientEndpointRegistry endpointEnv (oneEndpoint "__proto__" "signer") =
        .ok { default := "__proto__", endpoints := [("__proto__", signerConfig)] }) ∧
    (Language.python.LoadsSome (fun _ => endpointEnv) "2" (oneEndpoint "primary" "signer\x1c") ∧
      ¬ Language.go.LoadsSome (fun _ => endpointEnv) "2" (oneEndpoint "primary" "signer\x1c")) ∧
    (Language.go.LoadsSome (fun _ => endpointEnv) "0x2" (oneEndpoint "primary" "signer") ∧
      ¬ Language.typescript.LoadsSome (fun _ => endpointEnv) "0x2" (oneEndpoint "primary" "signer")) ∧
    ¬ RegistryAgrees (fun _ => endpointEnv) "2" (oneEndpoint "primary" "signer") "constructor" := by
  have hresolve : resolveClientEndpoint .typescript endpointEnv
      { default := "primary", endpoints := [("primary", signerConfig)] } "constructor" =
        .ok ("constructor", .builtin "constructor") := by decide +kernel
  have hmissing : "constructor" ∉ documentAliases (oneEndpoint "primary" "signer") := by decide +kernel
  have hpython : Python.loadClientEndpointRegistry endpointEnv (oneEndpoint "primary" "signer\x1c") =
      .ok { default := "primary", endpoints := [("primary", signerConfig)] } := by decide +kernel
  refine ⟨⟨primary_loads .typescript, hmissing, hresolve⟩, ⟨by decide +kernel, by decide +kernel⟩,
    ⟨⟨_, hpython⟩, fun ⟨reg, hreg⟩ => ?_⟩, ⟨⟨_, primary_loads .go⟩, fun ⟨reg, hreg⟩ => ?_⟩, fun hagrees => ?_⟩
  · have herror : (Go.loadClientEndpointRegistry endpointEnv (oneEndpoint "primary" "signer\x1c")).isOk =
        false := by decide +kernel
    have hok : Go.loadClientEndpointRegistry endpointEnv (oneEndpoint "primary" "signer\x1c") = .ok reg := hreg
    rw [hok] at herror
    cases herror
  · obtain ⟨_, _, hdoc, -⟩ := load_iff.mp hreg
    have hversion := hdoc.version
    revert hversion
    decide +kernel
  · have hserved := hagrees.served .typescript _ (primary_loads .typescript)
    exact hmissing (hserved.resolves.mp ⟨_, hresolve⟩)

end Demo

end AplaneSdk
