/-
# Processes that share the known_hosts file

Processes that connect at the same time may each stand between its look at the
file and the line it appends. The key that is found for a host never changes
once there is one, but two of them may accept two keys for a host that was
unknown when they looked: the file keeps the first. Within one process the
verifier of TypeScript is one callback, and only another program can put a key
between its look and its line.

Key definitions: `hostFileMachine`, `hostPool`, `oneProcess`, `HostStage`,
`Overtaken`.
Key theorems: `HostStage.step`, `hostStages_run`, `overtaken_of_raced`,
`knownHosts_interleaved`.
-/
import AplaneSdk.HostKeys
import AplaneSdk.Lib.Threads

namespace AplaneSdk

open Interaction Interaction.Prog

/-- Other programs put lines behind those of the file. -/
def hostFileMachine : Machine hostFile (List Char) (Option (List Char)) where
  answer file
    | .read, a => if a = file then some file else none
    | .append text, () => some (HostFileOp.leaves file (.append text))
    | .write text, () => some (HostFileOp.leaves file (.write text))
  drift file text := if text.getLast? = some '\n' then some (HostFileOp.leaves file (.append text)) else none

/-- Connections of TypeScript at the same time. -/
def hostPool (path : String) (caller : TypeScript.HostCaller) (file : Option (List Char)) (cs : List HostCheck) :
    Pool hostFile SdkError Unit (Option (List Char)) where
  shared := file
  threads := cs.map (TypeScript.hostVerifier path caller)

/-- No connection moves while another one is about to append. -/
def appendsNext (m : Move hostFile (List Char)) (p : HostFlow × ℕ) : Bool :=
  match p.1.pending, m with
  | some (.append _), .thread i _ => i == p.2
  | _, _ => true

/-- Connections of one process: a verifier is one callback, so none of the
others moves between its read and its append. Other programs may. -/
def oneProcess (alone : Bool) (_past : List (Move hostFile (List Char)))
    (c : Pool hostFile SdkError Unit (Option (List Char))) (m : Move hostFile (List Char)) : Bool :=
  !alone || c.threads.zipIdx.all (appendsNext m)

section Shared

variable {path : String} {caller : TypeScript.HostCaller} {file : Option (List Char)} {cs : List HostCheck}
  {alone : Bool}

/-- Where a verifier stands, with the file as it is now. -/
inductive HostStage (path : String) (caller : TypeScript.HostCaller) (c : HostCheck)
    (file : Option (List Char)) (seen : Trace hostFile) : HostFlow → Prop
  | asking (h : seen = []) : HostStage path caller c file seen (TypeScript.hostVerifier path caller c)
  | pending (before : Option (List Char)) (hseen : seen = [⟨.read, before⟩]) (htrust : c.trust = true)
      (hnew : loadKnownHostKey before c.host c.port = none) :
      HostStage path caller c file seen
        (query (I := hostFile) (.append (hostLine c.host c.port c.key ++ ['\n'])))
  | known (h : loadKnownHostKey file c.host c.port = some c.key) :
      HostStage path caller c file seen (done (.ok ()))
  | raced (before : Option (List Char)) (key : Bytes)
      (hseen : seen = [⟨.read, before⟩, ⟨.append (hostLine c.host c.port c.key ++ ['\n']), ()⟩])
      (htrust : c.trust = true) (hnew : loadKnownHostKey before c.host c.port = none) (hother : key ≠ c.key)
      (hkey : loadKnownHostKey file c.host c.port = some key) :
      HostStage path caller c file seen (done (.ok ()))
  | refused (e : SdkError) : HostStage path caller c file seen (done (.error e))

/-- The file is as it was, or has whole lines more. -/
def Extends (file file' : Option (List Char)) : Prop :=
  file' = file ∨ ∃ text, text.getLast? = some '\n' ∧ file' = some (file.getD [] ++ text)

theorem Extends.ends {file' : Option (List Char)} (h : Extends file file') (hend : EndsBlank file) :
    EndsBlank file' := by
  rcases h with rfl | ⟨text, htext, rfl⟩
  · exact hend
  · exact endsBlank_append htext

theorem Extends.keeps {file' : Option (List Char)} (h : Extends file file') (hend : EndsBlank file)
    {host : List Char} {port : ℕ} {key : Bytes} (hload : loadKnownHostKey file host port = some key) :
    loadKnownHostKey file' host port = some key := by
  rcases h with rfl | ⟨text, -, rfl⟩
  · exact hload
  · exact load_append hend text hload

variable {c : HostCheck} {file' : Option (List Char)} {seen : Trace hostFile} {p : HostFlow}

/-- Another program or connection moves. -/
theorem HostStage.other (h : HostStage path caller c file seen p) (hend : EndsBlank file)
    (hext : Extends file file') : HostStage path caller c file' seen p := by
  cases h with
  | asking hseen => exact .asking hseen
  | pending before hseen htrust hnew => exact .pending before hseen htrust hnew
  | known hload => exact .known (hext.keeps hend hload)
  | raced before key hseen htrust hnew hother hkey =>
    exact .raced before key hseen htrust hnew hother (hext.keeps hend hkey)
  | refused e => exact .refused e

/-- The verifier has read the file. -/
theorem HostStage.read (file : Option (List Char)) :
    HostStage path caller c file [⟨.read, file⟩] (match loadKnownHostKey file c.host c.port with
      | none =>
        if c.trust then query (I := hostFile) (.append (hostLine c.host c.port c.key ++ ['\n']))
        else throw (TypeScript.unknownHost path caller c)
      | some storedKey =>
        if storedKey = c.key then pure () else throw (TypeScript.keyMismatch path caller c)) := by
  cases hload : loadKnownHostKey file c.host c.port with
  | none =>
    by_cases htrust : c.trust = true
    · simp only [if_pos htrust]
      exact .pending file rfl htrust hload
    · simp only [if_neg htrust]
      exact .refused _
  | some storedKey =>
    by_cases hkey : storedKey = c.key
    · simp only [if_pos hkey]
      exact .known (hkey ▸ hload)
    · simp only [if_neg hkey]
      exact .refused _

/-- The verifier moves itself. -/
theorem HostStage.step (h : HostStage path caller c file seen p) (hend : EndsBlank file)
    (hentry : OneField c.entry) (hkey : WireKey c.key) {e : Event hostFile}
    {k : hostFile.Ans e.op → HostFlow} (hp : p = ask e.op k)
    (hans : hostFileMachine.answer file e.op e.ans = some file') :
    Extends file file' ∧ HostStage path caller c file' (seen ++ [e]) (k e.ans) := by
  obtain ⟨op, ans⟩ := e
  cases h with
  | asking hseen =>
    subst hseen
    cases hp
    have hread : ans = file ∧ file' = file := by
      by_cases heq : ans = file
      · have hans' : (if ans = file then some file else none) = some file' := hans
        rw [if_pos heq] at hans'
        exact ⟨heq, (Option.some.inj hans').symm⟩
      · have hans' : (if ans = file then some file else none) = some file' := hans
        rw [if_neg heq] at hans'
        cases hans'
    obtain ⟨rfl, rfl⟩ := hread
    exact ⟨.inl rfl, .read file'⟩
  | pending before hseen htrust hnew =>
    subst hseen
    cases hp
    cases hans
    have hline : (hostLine c.host c.port c.key ++ ['\n']).getLast? = some '\n' := List.getLast?_concat ..
    have hext : Extends file (some (file.getD [] ++ (hostLine c.host c.port c.key ++ ['\n']))) :=
      .inr ⟨_, hline, rfl⟩
    refine ⟨hext, ?_⟩
    cases hload : loadKnownHostKey file c.host c.port with
    | none =>
      exact .known (roundTrips_of_ownLine hload hentry hend hkey.ne_nil hkey.toTypeField).found
    | some key =>
      have hnow := hext.keeps hend hload
      by_cases hsame : key = c.key
      · exact .known (hsame ▸ hnow)
      · exact .raced before key rfl htrust hnew hsame hnow
  | known hload => cases hp
  | raced before key hseen htrust hnew hother hkey => cases hp
  | refused e => cases hp

structure HostStages (path : String) (caller : TypeScript.HostCaller) (cs : List HostCheck)
    (ms : List (Move hostFile (List Char))) (pool : Pool hostFile SdkError Unit (Option (List Char))) : Prop where
  ends : EndsBlank pool.shared
  stages : ∀ i c p, cs[i]? = some c → pool.threads[i]? = some p →
    HostStage path caller c pool.shared (eventsOf i ms) p

variable {ms : List (Move hostFile (List Char))} {pool pool' : Pool hostFile SdkError Unit (Option (List Char))}
  {m : Move hostFile (List Char)}

/-- In one process the connection that is about to append is the one that moves. -/
theorem oneProcess_pending (h : oneProcess alone ms pool m = true) (hone : alone = true) {i : ℕ}
    (hp : pool.threads[i]? = some p) {text : List Char} (htext : p.pending = some (.append text)) :
    (∃ d, m = .drift d) ∨ ∃ e, m = .thread i e := by
  have hall : pool.threads.zipIdx.all (appendsNext m) = true := by
    unfold oneProcess at h
    rwa [hone, Bool.not_true, Bool.false_or] at h
  have hthis := List.all_eq_true.mp hall (p, i) (List.mem_zipIdx_iff_getElem?.mpr hp)
  simp only [appendsNext, htext] at hthis
  cases m with
  | drift d => exact .inl ⟨d, rfl⟩
  | thread j e =>
    obtain rfl := beq_iff_eq.mp hthis
    exact .inr ⟨e, rfl⟩

theorem HostStages.step (h : HostStages path caller cs ms pool)
    (hcs : ∀ c ∈ cs, OneField c.entry ∧ WireKey c.key) (hlen : pool.threads.length = cs.length)
    (hstep : pool.step hostFileMachine m = some pool') :
    Extends pool.shared pool'.shared ∧ HostStages path caller cs (ms ++ [m]) pool' := by
  cases m with
  | drift text =>
    obtain ⟨s, hs, rfl⟩ := (Pool.step_drift (M := hostFileMachine)).mp hstep
    have hext : Extends pool.shared s := by
      have hdrift : (if text.getLast? = some '\n' then some (some (pool.shared.getD [] ++ text)) else none) =
          some s := hs
      by_cases htext : text.getLast? = some '\n'
      · rw [if_pos htext] at hdrift
        exact .inr ⟨text, htext, (Option.some.inj hdrift).symm⟩
      · rw [if_neg htext] at hdrift
        cases hdrift
    refine ⟨hext, hext.ends h.ends, fun i c p hc hp => ?_⟩
    rw [eventsOf_drift]
    exact (h.stages i c p hc hp).other h.ends hext
  | thread j e =>
    obtain ⟨k, s, hk, hs, rfl⟩ := (Pool.step_thread (M := hostFileMachine)).mp hstep
    have hj : j < cs.length := hlen ▸ (List.getElem?_eq_some_iff.mp hk).1
    have hcj : cs[j]? = some cs[j] := List.getElem?_eq_getElem hj
    have hvalid := hcs cs[j] (List.getElem_mem hj)
    obtain ⟨hext, hown⟩ := (h.stages j _ _ hcj hk).step h.ends hvalid.1 hvalid.2 rfl hs
    refine ⟨hext, hext.ends h.ends, fun i c p hc hp => ?_⟩
    by_cases hij : i = j
    · subst hij
      rw [List.getElem?_set_self (List.getElem?_eq_some_iff.mp hk).1] at hp
      rw [hcj] at hc
      cases Option.some.inj hp
      cases Option.some.inj hc
      rw [eventsOf_self]
      exact hown
    · rw [List.getElem?_set_ne (Ne.symm hij)] at hp
      rw [eventsOf_ne (Ne.symm hij)]
      exact (h.stages i c p hc hp).other h.ends hext

theorem hostStages_run (hfile : EndsBlank file) (hcs : ∀ c ∈ cs, OneField c.entry ∧ WireKey c.key)
    (hrun : Pool.run hostFileMachine (oneProcess alone) (hostPool path caller file cs) ms = some pool) :
    HostStages path caller cs ms pool := by
  refine Pool.run_induction (P := fun ms pool => HostStages path caller cs ms pool) ?_ ?_ hrun
  · refine ⟨hfile, fun i c p hc hp => ?_⟩
    have hthread : (cs.map (TypeScript.hostVerifier path caller))[i]? = some p := hp
    rw [List.getElem?_map, hc] at hthread
    cases hthread
    exact .asking rfl
  · intro ms pool m pool' hrun ih _ hstep
    have hlen : pool.threads.length = cs.length := (Pool.run_length hrun).trans (List.length_map ..)
    exact (ih.step hcs hlen hstep).2

/-- From one moment of a run to a later one the file has only got longer. -/
theorem load_run (hfile : EndsBlank file) (hcs : ∀ c ∈ cs, OneField c.entry ∧ WireKey c.key)
    (hrun : Pool.run hostFileMachine (oneProcess alone) (hostPool path caller file cs) ms = some pool)
    {host : List Char} {port : ℕ} {key : Bytes} (hload : loadKnownHostKey pool.shared host port = some key)
    {more : List (Move hostFile (List Char))} :
    ∀ {pool' : Pool hostFile SdkError Unit (Option (List Char))},
      Pool.run hostFileMachine (oneProcess alone) (hostPool path caller file cs) (ms ++ more) = some pool' →
        loadKnownHostKey pool'.shared host port = some key := by
  induction more using List.reverseRecOn with
  | nil =>
    intro pool' hrun'
    rw [List.append_nil, hrun] at hrun'
    cases hrun'
    exact hload
  | append_singleton more m ih =>
    intro pool' hrun'
    rw [← List.append_assoc] at hrun'
    obtain ⟨pool₁, hrun₁, -, hstep⟩ := (Pool.run_snoc (M := hostFileMachine)).mp hrun'
    have hstages := hostStages_run hfile hcs hrun₁
    have hlen : pool₁.threads.length = cs.length := (Pool.run_length hrun₁).trans (List.length_map ..)
    exact (hstages.step hcs hlen hstep).1.keeps hstages.ends (ih hrun₁)

/-- Verifier `i` was overtaken: it found no key for its host, and when it
appended its own line, after `between`, the file had another key. In one process
another program put it there. -/
structure Overtaken (alone : Bool) (start : Pool hostFile SdkError Unit (Option (List Char))) (i : ℕ)
    (c : HostCheck) (key : Bytes) (ms : List (Move hostFile (List Char))) (before : Option (List Char))
    (past between late : List (Move hostFile (List Char))) : Prop where
  order : ms = past ++ .thread i ⟨.read, before⟩ :: between ++
    .thread i ⟨.append (hostLine c.host c.port c.key ++ ['\n']), ()⟩ :: late
  unknown : loadKnownHostKey before c.host c.port = none
  came : ∃ pool, Pool.run hostFileMachine (oneProcess alone) start (past ++ .thread i ⟨.read, before⟩ :: between) =
    some pool ∧ loadKnownHostKey pool.shared c.host c.port = some key
  other : key ≠ c.key
  outside : alone = true → ∀ m ∈ between, ∃ text, m = .drift text

/-- In one process the moves between the look of a connection and its line are
those of other programs. -/
theorem drifts_between {i : ℕ} {past between : List (Move hostFile (List Char))} {before : Option (List Char)}
    {text : List Char} {k : Unit → HostFlow} (hc : cs[i]? = some c) (hone : alone = true)
    (hpast : eventsOf i past = []) (hbetween : eventsOf i between = [])
    (hrun : Pool.run hostFileMachine (oneProcess alone) (hostPool path caller file cs)
      (past ++ .thread i ⟨.read, before⟩ :: between) = some pool)
    (hp : pool.threads[i]? = some (ask (I := hostFile) (.append text) k)) :
    ∀ m ∈ between, ∃ text, m = .drift text := by
  intro m hm
  obtain ⟨ms₁, ms₂, rfl⟩ := List.append_of_mem hm
  have hthread : (hostPool path caller file cs).threads[i]? = some (TypeScript.hostVerifier path caller c) := by
    change (cs.map (TypeScript.hostVerifier path caller))[i]? = _
    rw [List.getElem?_map, hc]
    rfl
  have hseen : ∀ {ms : List (Move hostFile (List Char))}, eventsOf i ms = [] →
      eventsOf i (past ++ .thread i ⟨.read, before⟩ :: ms) = [⟨.read, before⟩] := by
    intro ms hms
    rw [List.append_cons, eventsOf_append, eventsOf_self, hpast, hms]
    rfl
  -- the program of `i` is the same after each of these moves
  rw [eventsOf_append] at hbetween
  have hnil := List.append_eq_nil_iff.mp hbetween
  have hsplit : past ++ .thread i ⟨.read, before⟩ :: (ms₁ ++ m :: ms₂) =
      (past ++ .thread i ⟨.read, before⟩ :: ms₁ ++ [m]) ++ ms₂ := by simp
  obtain ⟨pool₂, hrun₂⟩ := Pool.run_prefix (M := hostFileMachine) (hsplit ▸ hrun)
  obtain ⟨pool₁, hrun₁, hguard, -⟩ := (Pool.run_snoc (M := hostFileMachine)).mp hrun₂
  obtain ⟨q, hq, hleads⟩ := Pool.run_leads hthread hrun₁
  obtain ⟨q', hq', hleads'⟩ := Pool.run_leads hthread hrun
  rw [hseen hnil.1] at hleads
  rw [hseen (by rw [eventsOf_append, hnil.1, hnil.2]; rfl), Option.some.inj (hq'.symm.trans hp)] at hleads'
  have hpending : q.pending = some (.append text) := by
    rw [hleads.unique hleads']
    rfl
  rcases oneProcess_pending hguard hone hq hpending with ⟨d, rfl⟩ | ⟨e, rfl⟩
  · exact ⟨d, rfl⟩
  · exact absurd hnil.2 (eventsOf_ne_nil (List.mem_cons_self ..))

/-- A connection whose own key is not the one found was overtaken by that key. -/
theorem overtaken_of_raced (hfile : EndsBlank file) (hcs : ∀ c ∈ cs, OneField c.entry ∧ WireKey c.key)
    (hrun : Pool.run hostFileMachine (oneProcess alone) (hostPool path caller file cs) ms = some pool)
    {i : ℕ} (hc : cs[i]? = some c) {before : Option (List Char)} {key : Bytes}
    (hseen : eventsOf i ms = [⟨.read, before⟩, ⟨.append (hostLine c.host c.port c.key ++ ['\n']), ()⟩])
    (hnew : loadKnownHostKey before c.host c.port = none) (hother : key ≠ c.key)
    (hkey : loadKnownHostKey pool.shared c.host c.port = some key) :
    ∃ past between late, Overtaken alone (hostPool path caller file cs) i c key ms before past between late := by
  obtain ⟨past, rest, rfl, hpast, hrest⟩ := eventsOf_eq_cons hseen
  obtain ⟨between, late, rfl, hbetween, -⟩ := eventsOf_eq_cons hrest
  have hvalid := hcs c (List.mem_of_getElem? hc)
  have hsplit : past ++ .thread i ⟨.read, before⟩ :: (between ++
      .thread i ⟨.append (hostLine c.host c.port c.key ++ ['\n']), ()⟩ :: late) =
      (past ++ .thread i ⟨.read, before⟩ :: between ++
        [.thread i ⟨.append (hostLine c.host c.port c.key ++ ['\n']), ()⟩]) ++ late := by simp
  rw [hsplit] at hrun
  obtain ⟨pool₂, hrun₂⟩ := Pool.run_prefix (M := hostFileMachine) hrun
  obtain ⟨pool₁, hrun₁, -, hstep⟩ := (Pool.run_snoc (M := hostFileMachine)).mp hrun₂
  obtain ⟨k, s, hp, hs, rfl⟩ := (Pool.step_thread (M := hostFileMachine)).mp hstep
  have hend := (hostStages_run hfile hcs hrun₁).ends
  refine ⟨past, between, late, by simp, hnew, ⟨pool₁, hrun₁, ?_⟩, hother, fun hone =>
    drifts_between hc hone hpast hbetween hrun₁ hp⟩
  cases hload : loadKnownHostKey pool₁.shared c.host c.port with
  | none =>
    -- then its own key would be the one found, to the end
    cases hs
    have hown := (roundTrips_of_ownLine hload hvalid.1 hend hvalid.2.ne_nil hvalid.2.toTypeField).found
    exact absurd (Option.some.inj ((load_run hfile hcs hrun₂ hown hrun).symm.trans hkey)) (Ne.symm hother)
  | some key' =>
    have hlast : loadKnownHostKey pool.shared c.host c.port = some key' := by
      rw [List.append_assoc] at hrun
      exact load_run hfile hcs hrun₁ hload hrun
    exact hlast.symm.trans hkey

/-- **Processes that share the file.** Connections of TypeScript in any order,
among other programs that append lines: the key found for a host never changes
once there is one. A connection that is accepted leaves its own key there, or
was overtaken by the key that is found. -/
theorem knownHosts_interleaved (hfile : EndsBlank file) (hcs : ∀ c ∈ cs, OneField c.entry ∧ WireKey c.key)
    (hrun : Pool.run hostFileMachine (oneProcess alone) (hostPool path caller file cs) ms = some pool) :
    (∀ (host : List Char) (port : ℕ) (key : Bytes), loadKnownHostKey pool.shared host port = some key →
      ∀ more pool',
        Pool.run hostFileMachine (oneProcess alone) (hostPool path caller file cs) (ms ++ more) = some pool' →
          loadKnownHostKey pool'.shared host port = some key) ∧
      ∀ i c, cs[i]? = some c → pool.threads[i]? = some (done (.ok ())) →
        loadKnownHostKey pool.shared c.host c.port = some c.key ∨
          c.trust = true ∧ ∃ key before past between late,
            loadKnownHostKey pool.shared c.host c.port = some key ∧
              Overtaken alone (hostPool path caller file cs) i c key ms before past between late := by
  refine ⟨fun host port key hload more pool' hrun' => load_run hfile hcs hrun hload hrun', fun i c hc hdone => ?_⟩
  have hstage := (hostStages_run hfile hcs hrun).stages i c _ hc hdone
  generalize hp : (done (.ok ()) : HostFlow) = p at hstage
  generalize hevents : eventsOf i ms = seen at hstage
  cases hstage with
  | asking hseen => cases hp
  | pending before hseen htrust hnew => cases hp
  | known hload => exact .inl hload
  | raced before key hseen htrust hnew hother hkey =>
    obtain ⟨past, between, late, hover⟩ :=
      overtaken_of_raced hfile hcs hrun hc (hevents.trans hseen) hnew hother hkey
    exact .inr ⟨htrust, key, before, past, between, late, hkey, hover⟩
  | refused e => cases hp

end Shared

namespace Demo

/-- Two processes that find no file and are shown two keys of one host. -/
def firstUses : List HostCheck := [⟨signerHost, 22, hostKey, true⟩, ⟨signerHost, 22, otherHostKey, true⟩]

def bothRead : List (Move hostFile (List Char)) :=
  [.thread 0 ⟨.read, none⟩, .thread 1 ⟨.read, none⟩,
    .thread 0 ⟨.append (hostLine signerHost 22 hostKey ++ ['\n']), ()⟩,
    .thread 1 ⟨.append (hostLine signerHost 22 otherHostKey ++ ['\n']), ()⟩]

/-- Both are accepted, and the file keeps the key of the first, which came
between the look and the line of the second. -/
theorem knownHosts_interleaved_bothRead : ∃ pool,
    Pool.run hostFileMachine (oneProcess false) (hostPool "known_hosts" .tunnel none firstUses) bothRead =
        some pool ∧
      pool.threads[1]? = some (done (.ok ())) ∧ loadKnownHostKey pool.shared signerHost 22 = some hostKey ∧
      ∃ key before past between late,
        Overtaken false (hostPool "known_hosts" .tunnel none firstUses) 1 ⟨signerHost, 22, otherHostKey, true⟩ key
          bothRead before past between late := by
  have hplain : ∀ c ∈ firstUses, OneField c.entry ∧ WireKey c.key := by
    intro c hc
    have hmem : c ∈ threeChecks := List.mem_of_mem_take (i := 2) hc
    exact ⟨(threeChecks_plain c hmem).host.oneField c.port, (threeChecks_plain c hmem).key⟩
  have hfirst : loadKnownHostKey (some ([] ++ (hostLine signerHost 22 hostKey ++ ['\n']) ++
      (hostLine signerHost 22 otherHostKey ++ ['\n']))) signerHost 22 = some hostKey := by decide +kernel
  obtain ⟨pool, hrun, hdone, hload⟩ : ∃ pool,
      Pool.run hostFileMachine (oneProcess false) (hostPool "known_hosts" .tunnel none firstUses) bothRead =
          some pool ∧
        pool.threads[1]? = some (done (.ok ())) ∧ loadKnownHostKey pool.shared signerHost 22 = some hostKey :=
    ⟨_, rfl, rfl, hfirst⟩
  refine ⟨pool, hrun, hdone, hload, ?_⟩
  have hblank : EndsBlank none := rfl
  have hlast := (knownHosts_interleaved hblank hplain hrun).2 1 _ rfl hdone
  rcases hlast with hown | ⟨-, key, before, past, between, late, -, hover⟩
  · have hne : some hostKey ≠ some otherHostKey := by decide
    exact absurd (hload.symm.trans hown) hne
  · exact ⟨key, before, past, between, late, hover⟩

end Demo

end AplaneSdk
