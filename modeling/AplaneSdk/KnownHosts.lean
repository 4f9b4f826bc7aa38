/-
# The known_hosts file

TypeScript keeps the SSH host keys it trusts in a file of lines
`entry type key`. `loadKnownHostKey` looks for the first line of an entry,
`saveHostKey` appends a line for a host that has none, and Go's `saveHostKey`
appends the same line. The file may be anything other tools left there. The
saved key is found again, and no other host's key changes, when the file ends
with a line break or with blanks, and the entry is one field that no comment
starts with. A file whose last line has no line break takes the new line into
that one: the key is lost, and the next connection trusts whatever key it is
shown. `saveHostKey_exact` says when.

Key definitions: `parseHostKeyType`, `formatHostEntry`, `loadKnownHostKey`,
`saveHostKey`, `Go.saveHostKey`, `RoundTrips`, `OneField`, `EndsBlank`,
`WireKey`, `Echoes`.
Key theorems: `lineKey_some`, `load_saved`, `roundTrips_of_ownLine`,
`saveHostKey_exact`.
-/
import AplaneSdk.Lib.Base64
import AplaneSdk.Lib.Lines
import AplaneSdk.Wire

namespace AplaneSdk

open Lines

/-! ### Loading and saving -/

/-- `WhiteSpace` and `LineTerminator` of ECMAScript, which `trim` takes away. -/
def isWhiteSpace (c : Char) : Bool :=
  (9 ≤ c.toNat && c.toNat ≤ 13) || c.toNat == 32 || c.toNat == 0xA0 || c.toNat == 0x1680 ||
    (0x2000 ≤ c.toNat && c.toNat ≤ 0x200A) || c.toNat == 0x2028 || c.toNat == 0x2029 ||
    c.toNat == 0x202F || c.toNat == 0x205F || c.toNat == 0x3000 || c.toNat == 0xFEFF

/-- `key.readUInt32BE(0)`. -/
def readUInt32BE (key : Bytes) : ℕ := (key.take 4).foldl (fun n b => 256 * n + b.toNat) 0

/-- `parseHostKeyType`. `toString("ascii")` drops the high bit of each byte. -/
def parseHostKeyType (key : Bytes) : List Char :=
  if key.length < 4 then "unknown".toList
  else if key.length < 4 + readUInt32BE key then "unknown".toList
  else ((key.drop 4).take (readUInt32BE key)).map fun b => Char.ofNat (b.toNat % 128)

/-- `formatHostEntry`. -/
def formatHostEntry (host : List Char) (port : ℕ) : List Char :=
  if port = 22 then host else '[' :: host ++ ']' :: ':' :: (toString port).toList

/-- The body of the loop of `loadKnownHostKey`: the key on a line, if the line
is one of `hostEntry`. `Buffer.from` reads base64 leniently. -/
def lineKey (hostEntry line : List Char) : Option Bytes :=
  let trimmed := trim isWhiteSpace line
  if trimmed = [] ∨ trimmed.head? = some '#' then none
  else
    match trimmed.splitOn ' ' with
    | entry :: _ :: key :: _ => if entry = hostEntry then some (Base64.lenient key) else none
    | _ => none

/-- `loadKnownHostKey`. The file may be missing. -/
def loadKnownHostKey (file : Option (List Char)) (host : List Char) (port : ℕ) : Option Bytes :=
  match file with
  | none => none
  | some content => (content.splitOn '\n').findSome? (lineKey (formatHostEntry host port))

/-- The line of a host, without its end. -/
def hostLine (host : List Char) (port : ℕ) (key : Bytes) : List Char :=
  formatHostEntry host port ++ ' ' :: (parseHostKeyType key ++ ' ' :: Base64.encode key)

/-- `saveHostKey`. -/
def saveHostKey (file : Option (List Char)) (host : List Char) (port : ℕ) (key : Bytes) :
    Option (List Char) :=
  some (file.getD [] ++ (hostLine host port key ++ ['\n']))

/-- `saveHostKey` of Go, over `knownhosts.Line` for the one address. -/
def Go.saveHostKey (line : List Char → Bytes → List Char) (file : Option (List Char))
    (hostname : List Char) (key : Bytes) : Option (List Char) :=
  some (file.getD [] ++ (line hostname key ++ ['\n']))

/-! ### What saving is for -/

/-- The key is found, and what is found for the other hosts is as before. -/
structure RoundTrips (before after : Option (List Char)) (host : List Char) (port : ℕ) (key : Bytes) :
    Prop where
  found : loadKnownHostKey after host port = some key
  others : ∀ (host' : List Char) (port' : ℕ), formatHostEntry host' port' ≠ formatHostEntry host port →
    loadKnownHostKey after host' port' = loadKnownHostKey before host' port'

/-- The entry is the first field of a line that starts with it. -/
structure OneField (entry : List Char) : Prop where
  space : ' ' ∉ entry
  newline : '\n' ∉ entry
  start : entry.head?.any (fun c => !isWhiteSpace c && c != '#') = true

/-- The lines of the file that have an end. -/
def endedLines (file : Option (List Char)) : List (List Char) := ((file.getD []).splitOn '\n').dropLast

/-- What follows them. -/
def openLine (file : Option (List Char)) : List Char := lastPiece '\n' (file.getD [])

/-- Nothing but blanks after the last line break. -/
def EndsBlank (file : Option (List Char)) : Prop := (openLine file).all isWhiteSpace = true

/-- The name of the key's type is one field. -/
structure TypeField (key : Bytes) : Prop where
  space : ' ' ∉ parseHostKeyType key
  newline : '\n' ∉ parseHostKeyType key

/-- A public key in wire format: the length of the type, the type, the rest. -/
structure WireKey (key : Bytes) : Prop extends TypeField key where
  length : 4 ≤ key.length
  type : 4 + readUInt32BE key ≤ key.length

/-- The open last line has the entry and two fields more, so that the entry
itself, put after it, is read as the key; and it is the base64 of it. -/
def Echoes (file : Option (List Char)) (entry : List Char) (key : Bytes) : Prop :=
  Base64.lenient entry = key ∧
    ∃ x y, ((openLine file).dropWhile isWhiteSpace).splitOn ' ' = [entry, x, y]

/-! ### What a line gives -/

section Line

variable {entry line : List Char}

/-- A line of three fields or more that is no comment. -/
theorem lineKey_of_fields {e x k : List Char} {more : List (List Char)}
    (hfields : (trim isWhiteSpace line).splitOn ' ' = e :: x :: k :: more)
    (hhash : (trim isWhiteSpace line).head? ≠ some '#') (entry : List Char) :
    lineKey entry line = if e = entry then some (Base64.lenient k) else none := by
  have hne : trim isWhiteSpace line ≠ [] := by
    intro hnil
    rw [hnil, List.splitOn_nil] at hfields
    simp at hfields
  unfold lineKey
  rw [if_neg (by simp [hne, hhash]), hfields]

theorem lineKey_some {key : Bytes} (h : lineKey entry line = some key) :
    ∃ x k more, (trim isWhiteSpace line).splitOn ' ' = entry :: x :: k :: more ∧
      (trim isWhiteSpace line).head? ≠ some '#' ∧ Base64.lenient k = key := by
  simp only [lineKey] at h
  split at h
  · cases h
  · rename_i hline
    rw [not_or] at hline
    split at h
    · rename_i e x k more hfields
      split at h
      · rename_i he
        rw [he] at hfields
        exact ⟨x, k, more, hfields, hline.2, by simpa using h⟩
      · cases h
    · cases h

theorem lineKey_of_blank (entry : List Char) (h : ∀ c ∈ line, isWhiteSpace c = true) :
    lineKey entry line = none := by
  unfold lineKey
  rw [trim_of_blank h, if_pos (.inl rfl)]

theorem OneField.cons (h : OneField entry) :
    ∃ first rest, entry = first :: rest ∧ isWhiteSpace first = false ∧ first ≠ '#' := by
  have hstart := h.start
  cases entry with
  | nil => cases hstart
  | cons first rest => exact ⟨first, rest, rfl, by simpa using hstart⟩

/-- Only an entry that is one field is ever found. -/
theorem oneField_of_lineKey {key : Bytes} (h : lineKey entry line = some key) (hline : '\n' ∉ line) :
    OneField entry := by
  obtain ⟨x, k, more, hfields, hhash, -⟩ := lineKey_some h
  have hmem : entry ∈ (trim isWhiteSpace line).splitOn ' ' := by
    rw [hfields]
    exact List.mem_cons_self ..
  cases htrim : trim isWhiteSpace line with
  | nil =>
    rw [htrim, List.splitOn_nil] at hfields
    simp at hfields
  | cons first rest =>
    have hfirst : isWhiteSpace first = false := head_trim htrim
    have hspace : first ≠ ' ' := by
      intro heq
      rw [heq] at hfirst
      exact absurd hfirst (by decide)
    obtain ⟨piece, pieces, hrest⟩ := List.exists_cons_of_ne_nil (List.splitOn_ne_nil ' ' rest)
    have hentry : entry = first :: piece := by
      rw [htrim, List.splitOn_cons_eq_if_modifyHead, if_neg (by simpa using hspace), hrest,
        List.modifyHead_cons] at hfields
      exact (List.cons.inj hfields).1.symm
    have hnewline : '\n' ∉ entry := by
      intro hin
      exact hline (mem_of_mem_trim (mem_of_mem_splitOn hmem hin))
    rw [htrim] at hhash
    refine ⟨not_mem_of_mem_splitOn hmem, hnewline, ?_⟩
    rw [hentry]
    simpa [hfirst] using hhash

end Line

/-! ### The file after a save -/

section File

variable {file : Option (List Char)} {host : List Char} {port : ℕ} {key : Bytes}

theorem oneField_of_load (h : loadKnownHostKey file host port = some key) :
    OneField (formatHostEntry host port) := by
  unfold loadKnownHostKey at h
  cases file with
  | none => cases h
  | some content =>
    obtain ⟨line, hline, hkey⟩ := List.exists_of_findSome?_eq_some h
    exact oneField_of_lineKey hkey (not_mem_of_mem_splitOn hline)

theorem load_eq (file : Option (List Char)) (host : List Char) (port : ℕ) :
    loadKnownHostKey file host port =
      ((endedLines file).findSome? (lineKey (formatHostEntry host port))).or
        (lineKey (formatHostEntry host port) (openLine file)) := by
  cases file with
  | none => rfl
  | some content =>
    unfold loadKnownHostKey endedLines openLine
    dsimp only [Option.getD_some]
    conv_lhs => rw [splitOn_eq_lastPiece '\n' content]
    rw [List.findSome?_append, List.findSome?_singleton]

theorem newline_not_mem_encode (key : Bytes) : '\n' ∉ Base64.encode key := by
  intro h
  have hrange := (Base64.range_of_mem_encode h).1
  exact absurd hrange (by decide)

theorem space_not_mem_encode (key : Bytes) : ' ' ∉ Base64.encode key := by
  intro h
  have hrange := (Base64.range_of_mem_encode h).1
  exact absurd hrange (by decide)

theorem newline_not_mem_hostLine (hentry : OneField (formatHostEntry host port)) (htype : TypeField key) :
    '\n' ∉ hostLine host port key := by
  unfold hostLine
  simp [hentry.newline, htype.newline, newline_not_mem_encode]

/-- The line saved is put after the open line of the file. -/
theorem load_saved (hentry : OneField (formatHostEntry host port)) (htype : TypeField key)
    (host' : List Char) (port' : ℕ) :
    loadKnownHostKey (saveHostKey file host port key) host' port' =
      ((endedLines file).findSome? (lineKey (formatHostEntry host' port'))).or
        (lineKey (formatHostEntry host' port') (openLine file ++ hostLine host port key)) := by
  have hline : (hostLine host port key ++ ['\n']).splitOn '\n' = [hostLine host port key, []] := by
    rw [List.splitOn_append_cons_self_of_not_mem (newline_not_mem_hostLine hentry htype),
      List.splitOn_nil]
  have hlast (line : List Char) : [line, []].findSome? (lineKey (formatHostEntry host' port')) =
      lineKey (formatHostEntry host' port') line := by
    have hempty : lineKey (formatHostEntry host' port') [] = none := rfl
    simp only [List.findSome?_cons, hempty, List.findSome?_nil]
    cases lineKey (formatHostEntry host' port') line <;> rfl
  unfold saveHostKey loadKnownHostKey
  dsimp only
  rw [splitOn_append, hline, List.modifyHead_cons, List.findSome?_append, hlast]
  rfl

/-- The fields of the line, after what the open line leaves of itself. -/
theorem fields_joined (hentry : OneField (formatHostEntry host port)) (htype : TypeField key)
    (before : List Char) : (before ++ hostLine host port key).splitOn ' ' =
      (before.splitOn ' ').dropLast ++
        [lastPiece ' ' before ++ formatHostEntry host port, parseHostKeyType key, Base64.encode key] := by
  have hline : (hostLine host port key).splitOn ' ' =
      [formatHostEntry host port, parseHostKeyType key, Base64.encode key] := by
    unfold hostLine
    rw [List.splitOn_append_cons_self_of_not_mem hentry.space,
      List.splitOn_append_cons_self_of_not_mem htype.space,
      List.splitOn_eq_singleton (space_not_mem_encode key)]
  rw [splitOn_append, hline, List.modifyHead_cons]

/-- The line ends with a digit or a pad. -/
theorem hostLine_last (hkey : key ≠ []) (host : List Char) (port : ℕ) :
    ∃ mid last, hostLine host port key = formatHostEntry host port ++ (mid ++ [last]) ∧
      isWhiteSpace last = false := by
  have hne := Base64.encode_ne_nil hkey
  have hlast := Base64.range_of_mem_encode (List.getLast_mem hne)
  have hblank : isWhiteSpace ((Base64.encode key).getLast hne) = false := by
    unfold isWhiteSpace
    simp only [Bool.or_eq_false_iff, Bool.and_eq_false_iff, decide_eq_false_iff_not, beq_eq_false_iff_ne]
    omega
  refine ⟨' ' :: (parseHostKeyType key ++ ' ' :: (Base64.encode key).dropLast), _, ?_, hblank⟩
  unfold hostLine
  simp [List.dropLast_append_getLast hne]

/-- On a line of its own the entry is read back with the key. -/
theorem lineKey_own (hentry : OneField (formatHostEntry host port)) (htype : TypeField key) (hkey : key ≠ [])
    {before : List Char} (hbefore : ∀ c ∈ before, isWhiteSpace c = true) (entry : List Char) :
    lineKey entry (before ++ hostLine host port key) =
      if formatHostEntry host port = entry then some key else none := by
  obtain ⟨first, rest, heq, hfirst, hhash⟩ := hentry.cons
  obtain ⟨mid, last, hline, hlast⟩ := hostLine_last hkey host port
  have htrim : trim isWhiteSpace (before ++ hostLine host port key) = hostLine host port key := by
    rw [hline, heq]
    have hassoc : first :: rest ++ (mid ++ [last]) = first :: (rest ++ mid) ++ [last] := by simp
    rw [hassoc]
    exact trim_append_of_blank hbefore hfirst hlast (rest ++ mid)
  have hfields := fields_joined hentry htype []
  rw [List.nil_append, List.splitOn_nil] at hfields
  have hhead : (hostLine host port key).head? ≠ some '#' := by
    rw [hline, heq]
    simpa using hhash
  rw [lineKey_of_fields (by rw [htrim, hfields]; rfl) (by rw [htrim]; exact hhead), Base64.lenient_encode]
  rfl

/-- After an open line that is not blank, the two are one line. -/
theorem trim_joined (hkey : key ≠ []) {before : List Char} (hbefore : ∃ c ∈ before, isWhiteSpace c = false)
    (host : List Char) (port : ℕ) : trim isWhiteSpace (before ++ hostLine host port key) =
      before.dropWhile isWhiteSpace ++ hostLine host port key := by
  obtain ⟨mid, last, hline, hlast⟩ := hostLine_last hkey host port
  rw [hline, ← List.append_assoc (formatHostEntry host port)]
  exact trim_append_of_not_blank hbefore hlast _

/-- **A line of its own.** The file ends with blanks, the entry and the name
of the key's type are fields: the key is found again. -/
theorem roundTrips_of_ownLine (hnew : loadKnownHostKey file host port = none)
    (hentry : OneField (formatHostEntry host port)) (hend : EndsBlank file) (hkey : key ≠ [])
    (htype : TypeField key) : RoundTrips file (saveHostKey file host port key) host port key := by
  have hopen : ∀ c ∈ openLine file, isWhiteSpace c = true := List.all_eq_true.mp hend
  refine ⟨?_, fun host' port' hother => ?_⟩
  · rw [load_eq, Option.or_eq_none_iff] at hnew
    rw [load_saved hentry htype, hnew.1, Option.none_or, lineKey_own hentry htype hkey hopen, if_pos rfl]
  · rw [load_saved hentry htype, load_eq, lineKey_own hentry htype hkey hopen, if_neg (Ne.symm hother),
      lineKey_of_blank _ hopen]

/-! ### An open line that is not blank -/

/-- A line of the entry that gives no key has nothing but blanks in its third
field: they were trimmed. -/
theorem third_blank {entry line x y : List Char} {more : List (List Char)} (hentry : OneField entry)
    (hnone : lineKey entry line = none)
    (hfields : (line.dropWhile isWhiteSpace).splitOn ' ' = entry :: x :: y :: more) :
    ∀ c ∈ y, isWhiteSpace c = true := by
  intro c hc
  by_contra hcontra
  have hblank : isWhiteSpace c = false := by simpa using hcontra
  have hx : ' ' ∉ x := by
    have hmem : x ∈ (line.dropWhile isWhiteSpace).splitOn ' ' := by
      rw [hfields]
      simp
    exact not_mem_of_mem_splitOn hmem
  have hline : line.dropWhile isWhiteSpace =
      (entry ++ ' ' :: (x ++ [' '])) ++ [' '].intercalate (y :: more) := by
    have hjoin : [' '].intercalate ((line.dropWhile isWhiteSpace).splitOn ' ') = line.dropWhile isWhiteSpace :=
      List.intercalate_splitOn ' '
    rw [hfields, List.intercalate_cons_cons, List.intercalate_cons_cons] at hjoin
    rw [← hjoin]
    simp
  have hrest : ∃ c ∈ [' '].intercalate (y :: more), isWhiteSpace c = false := by
    refine ⟨c, ?_, hblank⟩
    cases more with
    | nil => rwa [List.intercalate_singleton]
    | cons z zs =>
      rw [List.intercalate_cons_cons]
      simp [hc]
  have htrim : trim isWhiteSpace line =
      entry ++ ' ' :: (x ++ ' ' :: ([' '].intercalate (y :: more)).rdropWhile isWhiteSpace) := by
    unfold trim
    rw [hline, rdropWhile_append hrest]
    simp
  obtain ⟨k, ks, hk⟩ := List.exists_cons_of_ne_nil
    (List.splitOn_ne_nil ' ' (([' '].intercalate (y :: more)).rdropWhile isWhiteSpace))
  have hsplit : (trim isWhiteSpace line).splitOn ' ' = entry :: x :: k :: ks := by
    rw [htrim, List.splitOn_append_cons_self_of_not_mem hentry.space,
      List.splitOn_append_cons_self_of_not_mem hx, hk]
  have hhash : (trim isWhiteSpace line).head? ≠ some '#' := by
    obtain ⟨first, rest, heq, -, hfirst⟩ := hentry.cons
    rw [htrim, heq]
    simpa using hfirst
  rw [lineKey_of_fields hsplit hhash, if_pos rfl] at hnone
  cases hnone

/-- A blank is no digit and no pad. -/
theorem blank_skipped {c : Char} (h : isWhiteSpace c = true) : Base64.sextetUrl c = none ∧ c ≠ '=' := by
  have hne : ∀ d : Char, isWhiteSpace d = false → c ≠ d := by
    intro d hd heq
    rw [heq, hd] at h
    cases h
  refine ⟨?_, hne '=' (by decide)⟩
  have hplus := hne '+' (by decide)
  have hslash := hne '/' (by decide)
  have hminus := hne '-' (by decide)
  have hunder := hne '_' (by decide)
  have hrange : ¬ (65 ≤ c.toNat ∧ c.toNat ≤ 90) ∧ ¬ (97 ≤ c.toNat ∧ c.toNat ≤ 122) ∧
      ¬ (48 ≤ c.toNat ∧ c.toNat ≤ 57) := by
    unfold isWhiteSpace at h
    simp only [Bool.or_eq_true, Bool.and_eq_true, decide_eq_true_eq, beq_iff_eq] at h
    omega
  unfold Base64.sextetUrl Base64.sextet
  rw [if_neg hminus, if_neg hunder, if_neg hrange.1, if_neg hrange.2.1, if_neg hrange.2.2, if_neg hplus,
    if_neg hslash]

theorem lenient_blank_append {blanks : List Char} (h : ∀ c ∈ blanks, isWhiteSpace c = true)
    (text : List Char) : Base64.lenient (blanks ++ text) = Base64.lenient text :=
  Base64.lenient_skip (fun c hc => blank_skipped (h c hc)) text

/-- The name of the type is shorter than the key it is part of. -/
theorem WireKey.type_lt (h : WireKey key) : (parseHostKeyType key).length < key.length := by
  have hlength := h.length
  have htype := h.type
  unfold parseHostKeyType
  rw [if_neg (by omega), if_neg (by omega)]
  simp only [List.length_map, List.length_take, List.length_drop]
  omega

theorem WireKey.ne_nil (h : WireKey key) : key ≠ [] := by
  have hlength := h.length
  intro hnil
  rw [hnil] at hlength
  simp at hlength

theorem openLine_not_blank (h : ¬ EndsBlank file) : ∃ c ∈ openLine file, isWhiteSpace c = false := by
  unfold EndsBlank at h
  simpa using h

/-- The one way the key of a joined line is the key saved: the entry was read
in the place of the key. -/
theorem echoes_of_joined (hentry : OneField (formatHostEntry host port)) (hwire : WireKey key)
    (hopen : ∃ c ∈ openLine file, isWhiteSpace c = false)
    (hnone : lineKey (formatHostEntry host port) (openLine file) = none)
    (hfound : lineKey (formatHostEntry host port) (openLine file ++ hostLine host port key) = some key) :
    Echoes file (formatHostEntry host port) key := by
  obtain ⟨x, k, more, hfields, -, hkey⟩ := lineKey_some hfound
  rw [trim_joined hwire.ne_nil hopen, fields_joined hentry hwire.toTypeField] at hfields
  have hsplit := splitOn_eq_lastPiece ' ' ((openLine file).dropWhile isWhiteSpace)
  cases hinit : (((openLine file).dropWhile isWhiteSpace).splitOn ' ').dropLast with
  | nil =>
    -- The first field would be the entry with something before it.
    rw [hinit, List.nil_append] at hfields
    have hempty : lastPiece ' ' ((openLine file).dropWhile isWhiteSpace) = [] := by
      have hhead := (List.cons.inj hfields).1
      simpa using hhead
    have hjoin : [' '].intercalate (((openLine file).dropWhile isWhiteSpace).splitOn ' ') =
        (openLine file).dropWhile isWhiteSpace := List.intercalate_splitOn ' '
    rw [hsplit, hinit, List.nil_append, hempty, List.intercalate_singleton] at hjoin
    obtain ⟨c, hc, hblank⟩ := hopen
    have hall := (List.dropWhile_eq_nil_iff.mp hjoin.symm) c hc
    rw [hblank] at hall
    cases hall
  | cons a init =>
    rw [hinit] at hfields hsplit
    cases init with
    | nil =>
      -- The key would be the name of its own type.
      have hk : k = parseHostKeyType key := by
        simp only [List.cons_append, List.nil_append, List.cons.injEq] at hfields
        exact hfields.2.2.1.symm
      have hle := Base64.length_lenient_le (parseHostKeyType key)
      have hlt := hwire.type_lt
      rw [← hk, hkey] at hle
      rw [hk] at hle
      omega
    | cons b init =>
      cases init with
      | nil =>
        simp only [List.cons_append, List.nil_append, List.cons.injEq] at hfields hsplit
        obtain ⟨ha, -, hk, -⟩ := hfields
        rw [ha] at hsplit
        refine ⟨?_, b, _, hsplit⟩
        have hblank := third_blank hentry hnone hsplit
        rw [← hkey, ← hk, lenient_blank_append hblank]
      | cons c init =>
        -- The key would be a blank field.
        simp only [List.cons_append, List.cons.injEq] at hfields
        obtain ⟨ha, -, hk, -⟩ := hfields
        rw [ha, List.cons_append, List.cons_append, List.cons_append] at hsplit
        have hblank := third_blank hentry hnone hsplit
        have hnil := lenient_blank_append hblank []
        rw [List.append_nil, hk, hkey] at hnil
        exact absurd hnil hwire.ne_nil

/-- A line whose first fields are those of another line is no line of another
entry. -/
theorem lineKey_of_other {entry line x y : List Char} {more : List (List Char)}
    (hfields : (line.dropWhile isWhiteSpace).splitOn ' ' = entry :: x :: y :: more) {entry' : List Char}
    (hother : entry' ≠ entry) : lineKey entry' line = none := by
  cases hkey : lineKey entry' line with
  | none => rfl
  | some key =>
    obtain ⟨x', k', more', htrim, -, -⟩ := lineKey_some hkey
    obtain ⟨rest, hrest⟩ : trim isWhiteSpace line <+: line.dropWhile isWhiteSpace :=
      List.rdropWhile_prefix isWhiteSpace _
    rw [← hrest, splitOn_append, htrim, List.dropLast_cons_of_ne_nil (by simp), List.cons_append] at hfields
    exact absurd (List.cons.inj hfields).1 hother

theorem roundTrips_of_echoes (hnew : loadKnownHostKey file host port = none)
    (hentry : OneField (formatHostEntry host port)) (hkey : key ≠ []) (htype : TypeField key)
    (hecho : Echoes file (formatHostEntry host port) key) :
    RoundTrips file (saveHostKey file host port key) host port key := by
  obtain ⟨hdecode, x, y, hfields⟩ := hecho
  have hopen : ∃ c ∈ openLine file, isWhiteSpace c = false := by
    by_contra hcontra
    have hall : ∀ c ∈ openLine file, isWhiteSpace c = true := by simpa using hcontra
    have hnil := List.dropWhile_eq_nil_iff.mpr hall
    rw [hnil, List.splitOn_nil] at hfields
    simp at hfields
  rw [load_eq, Option.or_eq_none_iff] at hnew
  have hblank := third_blank hentry hnew.2 hfields
  have hjoined : (trim isWhiteSpace (openLine file ++ hostLine host port key)).splitOn ' ' =
      formatHostEntry host port :: x :: (y ++ formatHostEntry host port) ::
        [parseHostKeyType key, Base64.encode key] := by
    have hlast : lastPiece ' ' ((openLine file).dropWhile isWhiteSpace) = y := by
      unfold lastPiece
      simp only [hfields]
      rfl
    rw [trim_joined hkey hopen, fields_joined hentry htype, hlast, hfields]
    rfl
  have hhash : (trim isWhiteSpace (openLine file ++ hostLine host port key)).head? ≠ some '#' := by
    obtain ⟨first, rest, heq, -, hfirst⟩ := hentry.cons
    have hjoin : [' '].intercalate ((trim isWhiteSpace (openLine file ++ hostLine host port key)).splitOn ' ') =
        trim isWhiteSpace (openLine file ++ hostLine host port key) := List.intercalate_splitOn ' '
    rw [hjoined, List.intercalate_cons_cons, heq] at hjoin
    rw [← hjoin]
    simpa using hfirst
  have hline := lineKey_of_fields hjoined hhash
  refine ⟨?_, fun host' port' hother => ?_⟩
  · rw [load_saved hentry htype, hnew.1, Option.none_or, hline, if_pos rfl, lenient_blank_append hblank,
      hdecode]
  · rw [load_saved hentry htype, load_eq, hline, if_neg (Ne.symm hother), lineKey_of_other hfields hother]

/-- **When a saved key is found again**, in a file where the host has none.
TypeScript and Go write the same file. It is enough that the file ends with a
line break or with blanks and that the entry is a field; for a key in wire
format nothing less will do, but for an entry that is the base64 of its own
key and is read for it. -/
theorem saveHostKey_exact (line : List Char → Bytes → List Char) (hostname : List Char)
    (hline : line hostname key = hostLine host port key) (hnew : loadKnownHostKey file host port = none) :
    ∀ after ∈ [saveHostKey file host port key, Go.saveHostKey line file hostname key],
      (OneField (formatHostEntry host port) → EndsBlank file → key ≠ [] → TypeField key →
        RoundTrips file after host port key) ∧
      (WireKey key → (RoundTrips file after host port key ↔
        OneField (formatHostEntry host port) ∧
          (EndsBlank file ∨ Echoes file (formatHostEntry host port) key))) := by
  intro after hafter
  have hsame : after = saveHostKey file host port key := by
    unfold Go.saveHostKey at hafter
    rw [hline] at hafter
    simpa [saveHostKey] using hafter
  rw [hsame]
  refine ⟨fun hentry hend hkey htype => roundTrips_of_ownLine hnew hentry hend hkey htype,
    fun hwire => ⟨fun hround => ?_, fun hcond => ?_⟩⟩
  · have hentry := oneField_of_load hround.found
    refine ⟨hentry, ?_⟩
    by_cases hend : EndsBlank file
    · exact .inl hend
    · have hnone := hnew
      have hfound := hround.found
      rw [load_eq, Option.or_eq_none_iff] at hnone
      rw [load_saved hentry hwire.toTypeField, hnone.1, Option.none_or] at hfound
      exact .inr (echoes_of_joined hentry hwire (openLine_not_blank hend) hnone.2 hfound)
  · obtain ⟨hentry, hend | hecho⟩ := hcond
    · exact roundTrips_of_ownLine hnew hentry hend hwire.ne_nil hwire.toTypeField
    · exact roundTrips_of_echoes hnew hentry hwire.ne_nil hwire.toTypeField hecho

end File

namespace Demo

/-- An Ed25519 host key: the type, and 32 bytes. -/
def hostKey : Bytes :=
  [0, 0, 0, 11, 115, 115, 104, 45, 101, 100, 50, 53, 53, 49, 57, 0, 0, 0, 32] ++ List.replicate 32 7

def signerHost : List Char := "signer.example".toList

/-- `knownhosts.Line` for an address with port 22, which `Normalize` drops. -/
def knownHostsLine (address : List Char) (key : Bytes) : List Char :=
  address.takeWhile (· != ':') ++ ' ' :: (parseHostKeyType key ++ ' ' :: Base64.encode key)

def commentFile : Option (List Char) := some "# managed by ops".toList

def endedCommentFile : Option (List Char) := some "# managed by ops\n".toList

theorem hostKey_wire : WireKey hostKey :=
  ⟨⟨by decide +kernel, by decide +kernel⟩, by decide +kernel, by decide +kernel⟩

theorem signerHost_oneField : OneField (formatHostEntry signerHost 22) :=
  ⟨by decide +kernel, by decide +kernel, by decide +kernel⟩

/-- The comment has its line end: the key is found again. -/
theorem saveHostKey_exact_ended :
    loadKnownHostKey endedCommentFile signerHost 22 = none ∧ WireKey hostKey ∧
      RoundTrips endedCommentFile (saveHostKey endedCommentFile signerHost 22 hostKey) signerHost 22 hostKey ∧
      RoundTrips endedCommentFile
        (Go.saveHostKey knownHostsLine endedCommentFile "signer.example:22".toList hostKey)
        signerHost 22 hostKey := by
  have hnew : loadKnownHostKey endedCommentFile signerHost 22 = none := by decide +kernel
  have hline : knownHostsLine "signer.example:22".toList hostKey = hostLine signerHost 22 hostKey := by
    decide +kernel
  have hexact := saveHostKey_exact knownHostsLine "signer.example:22".toList hline hnew
  have hend : EndsBlank endedCommentFile := by
    unfold EndsBlank
    decide +kernel
  have hcond : OneField (formatHostEntry signerHost 22) ∧
      (EndsBlank endedCommentFile ∨ Echoes endedCommentFile (formatHostEntry signerHost 22) hostKey) :=
    ⟨signerHost_oneField, .inl hend⟩
  exact ⟨hnew, hostKey_wire, ((hexact _ (by simp)).2 hostKey_wire).mpr hcond,
    ((hexact _ (by simp)).2 hostKey_wire).mpr hcond⟩

/-- Without it the key becomes part of the comment, and the host is unknown
again. -/
theorem openComment_loses_key :
    loadKnownHostKey commentFile signerHost 22 = none ∧ WireKey hostKey ∧
      loadKnownHostKey (saveHostKey commentFile signerHost 22 hostKey) signerHost 22 = none ∧
      ¬ RoundTrips commentFile (saveHostKey commentFile signerHost 22 hostKey) signerHost 22 hostKey ∧
      ¬ RoundTrips commentFile
        (Go.saveHostKey knownHostsLine commentFile "signer.example:22".toList hostKey)
        signerHost 22 hostKey := by
  have hlost : loadKnownHostKey (saveHostKey commentFile signerHost 22 hostKey) signerHost 22 = none := by
    decide +kernel
  have hsame : Go.saveHostKey knownHostsLine commentFile "signer.example:22".toList hostKey =
      saveHostKey commentFile signerHost 22 hostKey := by decide +kernel
  have hfails : ¬ RoundTrips commentFile (saveHostKey commentFile signerHost 22 hostKey) signerHost 22
      hostKey := by
    intro hround
    have hfound := hround.found
    rw [hlost] at hfound
    cases hfound
  exact ⟨by decide +kernel, hostKey_wire, hlost, hfails, by rwa [hsame]⟩

end Demo

end AplaneSdk
