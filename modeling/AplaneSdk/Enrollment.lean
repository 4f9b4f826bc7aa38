/-
# Enrollment

A client asks the signer to enroll its key: it checks the label by itself, runs
one command over SSH, and reads the answer, which must be about its own key.

Here are the two ends of that: what label is sent, and what answer is believed;
the session between them is in `EnrollmentSession`. The validators of a label
differ only in what they take for a blank at its ends. An answer is read as what
it was written for, and one about another key is an error.

Key definitions: `Language.validateEnrollmentLabel`, `LabelFits`,
`Language.parseEnrollmentReply`, `EnrollmentResult.text`.
Key theorems: `labels_differ`, `parseEnrollmentReply_ok`.
-/
import AplaneSdk.Endpoints

namespace AplaneSdk

open Lines

/-! ### Labels -/

def maxEnrollmentLabelBytes : ℕ := 64

def isControl (c : Char) : Bool := c.toNat < 0x20 || c.toNat == 0x7F

def Language.validateEnrollmentLabel (l : Language) (label : String) : Except SdkError Unit :=
  if label = "" then .ok ()
  else if maxEnrollmentLabelBytes < label.utf8ByteSize then
    signerError s!"enrollment label must be at most {maxEnrollmentLabelBytes} bytes"
  else if l.strip label ≠ label then signerError "enrollment label must not start or end with whitespace"
  else if label.toList.any isControl then signerError "enrollment label must be printable and single-line"
  else .ok ()

def Go.validateEnrollmentLabel : String → Except SdkError Unit := Language.go.validateEnrollmentLabel

def Python.validateEnrollmentLabel : String → Except SdkError Unit := Language.python.validateEnrollmentLabel

def TypeScript.validateEnrollmentLabel : String → Except SdkError Unit :=
  Language.typescript.validateEnrollmentLabel

/-- The first and the last character. -/
def labelEnds (label : String) : List Char := label.toList.head?.toList ++ label.toList.getLast?.toList

/-- Short enough and printable. -/
structure LabelFits (label : String) : Prop where
  nonempty : label ≠ ""
  short : label.utf8ByteSize ≤ maxEnrollmentLabelBytes
  printable : ∀ c ∈ label.toList, isControl c = false

section Labels

variable {l : Language} {label : String}

theorem strip_eq_self : l.strip label = label ↔ ∀ c ∈ labelEnds label, l.blank c = false := by
  have htrim : l.strip label = label ↔ trim l.blank label.toList = label.toList := by
    unfold Language.strip
    constructor
    · intro h
      rw [← String.toList_ofList (l := trim l.blank label.toList), h]
    · intro h
      rw [h, String.ofList_toList]
  rw [htrim, trim_eq_self, labelEnds]
  simp only [List.mem_append, Option.mem_toList, Option.mem_def]
  exact ⟨fun h c hc => hc.elim (h.1 c) (h.2 c), fun h => ⟨fun c hc => h c (Or.inl hc), fun c hc => h c (Or.inr hc)⟩⟩

theorem validateEnrollmentLabel_ok : l.validateEnrollmentLabel label = .ok () ↔
    label = "" ∨ LabelFits label ∧ ∀ c ∈ labelEnds label, l.blank c = false := by
  unfold Language.validateEnrollmentLabel
  by_cases hempty : label = ""
  · simp [hempty]
  by_cases hlong : maxEnrollmentLabelBytes < label.utf8ByteSize
  · rw [if_neg hempty, if_pos hlong]
    constructor
    · nofun
    · rintro (h | ⟨h, -⟩)
      · exact absurd h hempty
      · have := h.short
        omega
  by_cases hstrip : l.strip label = label
  · by_cases hcontrol : label.toList.any isControl = true
    · rw [if_neg hempty, if_neg hlong, if_neg (by simp [hstrip]), if_pos hcontrol]
      constructor
      · nofun
      · rintro (h | ⟨h, -⟩)
        · exact absurd h hempty
        · obtain ⟨c, hc, hcontrol⟩ := List.any_eq_true.mp hcontrol
          rw [h.printable c hc] at hcontrol
          cases hcontrol
    · rw [if_neg hempty, if_neg hlong, if_neg (by simp [hstrip]), if_neg hcontrol]
      refine ⟨fun _ => Or.inr ⟨⟨hempty, by omega, ?_⟩, strip_eq_self.mp hstrip⟩, fun _ => rfl⟩
      intro c hc
      by_contra hne
      exact hcontrol (List.any_eq_true.mpr ⟨c, hc, by simpa using hne⟩)
  · rw [if_neg hempty, if_neg hlong, if_pos hstrip]
    constructor
    · nofun
    · rintro (h | ⟨-, h⟩)
      · exact absurd h hempty
      · exact absurd (strip_eq_self.mpr h) hstrip

/-- What JavaScript takes for a blank and Go does not, and the other way round. -/
theorem isWhiteSpace_iff (c : Char) :
    isWhiteSpace c = true ↔ isUnicodeSpace c = true ∧ c.toNat ≠ 0x85 ∨ c.toNat = 0xFEFF := by
  simp only [isWhiteSpace, isUnicodeSpace, Bool.or_eq_true, Bool.and_eq_true, decide_eq_true_eq, beq_iff_eq]
  omega

theorem blank_python {c : Char} (h : isControl c = false) : Language.python.blank c = Language.go.blank c := by
  have hspan : (0x1C ≤ c.toNat && c.toNat ≤ 0x1F) = false := by
    simp only [isControl, Bool.or_eq_false_iff, decide_eq_false_iff_not, beq_eq_false_iff_ne] at h
    simp only [Bool.and_eq_false_iff, decide_eq_false_iff_not]
    omega
  show (isUnicodeSpace c || _) = isUnicodeSpace c
  rw [hspan, Bool.or_false]

theorem mem_of_mem_labelEnds {c : Char} (h : c ∈ labelEnds label) : c ∈ label.toList := by
  rcases List.mem_append.mp h with hc | hc
  · exact List.mem_of_mem_head? (by simpa using hc)
  · exact List.mem_of_getLast? (by simpa using hc)

theorem not_ok_iff (hfits : LabelFits label) : l.validateEnrollmentLabel label ≠ .ok () ↔
    ∃ c ∈ labelEnds label, l.blank c = true := by
  rw [Ne, validateEnrollmentLabel_ok]
  constructor
  · intro h
    by_contra hnone
    apply h
    refine Or.inr ⟨hfits, fun c hc => ?_⟩
    by_contra hblank
    exact hnone ⟨c, hc, by simpa using hblank⟩
  · rintro ⟨c, hc, hblank⟩ (hempty | ⟨-, hends⟩)
    · exact hfits.nonempty hempty
    · rw [hends c hc] at hblank
      cases hblank

/-- What one language accepts and another refuses. -/
theorem accepts_refuses_iff (l l' : Language) :
    l.validateEnrollmentLabel label = .ok () ∧ l'.validateEnrollmentLabel label ≠ .ok () ↔
      LabelFits label ∧ (∃ c ∈ labelEnds label, l'.blank c = true) ∧ ∀ c ∈ labelEnds label, l.blank c = false := by
  constructor
  · rintro ⟨hok, hnot⟩
    rcases validateEnrollmentLabel_ok.mp hok with hempty | ⟨hfits, hends⟩
    · exact absurd (validateEnrollmentLabel_ok.mpr (Or.inl hempty)) hnot
    · exact ⟨hfits, (not_ok_iff hfits).mp hnot, hends⟩
  · rintro ⟨hfits, hblank, hends⟩
    exact ⟨validateEnrollmentLabel_ok.mpr (Or.inr ⟨hfits, hends⟩), (not_ok_iff hfits).mpr hblank⟩

theorem isUnicodeSpace_iff {c : Char} (h : isWhiteSpace c = false) : isUnicodeSpace c = true ↔ c.toNat = 0x85 := by
  constructor
  · intro hspace
    by_contra hne
    rw [(isWhiteSpace_iff c).mpr (Or.inl ⟨hspace, hne⟩)] at h
    cases h
  · intro hnel
    simp [isUnicodeSpace, hnel]

theorem isWhiteSpace_iff_bom {c : Char} (h : isUnicodeSpace c = false) :
    isWhiteSpace c = true ↔ c.toNat = 0xFEFF := by
  rw [isWhiteSpace_iff, h]
  simp

/-- **Where the validators differ.** Go and Python accept the same labels.
TypeScript accepts one that they refuse only for a U+0085 at an end, which it
takes for no blank, and refuses one that they accept only for a U+FEFF there,
which it takes for one. -/
theorem labels_differ (label : String) :
    (Go.validateEnrollmentLabel label = .ok () ↔ Python.validateEnrollmentLabel label = .ok ()) ∧
      (TypeScript.validateEnrollmentLabel label = .ok () ∧ Go.validateEnrollmentLabel label ≠ .ok () ↔
        LabelFits label ∧ (∃ c ∈ labelEnds label, c.toNat = 0x85) ∧ ∀ c ∈ labelEnds label, isWhiteSpace c = false) ∧
      (Go.validateEnrollmentLabel label = .ok () ∧ TypeScript.validateEnrollmentLabel label ≠ .ok () ↔
        LabelFits label ∧ (∃ c ∈ labelEnds label, c.toNat = 0xFEFF) ∧
          ∀ c ∈ labelEnds label, isUnicodeSpace c = false) := by
  refine ⟨?_, ?_, ?_⟩
  · show Language.go.validateEnrollmentLabel label = .ok () ↔ Language.python.validateEnrollmentLabel label = .ok ()
    rw [validateEnrollmentLabel_ok, validateEnrollmentLabel_ok]
    refine or_congr_right (and_congr_right fun hfits => ?_)
    constructor
    · intro h c hc
      rw [blank_python (hfits.printable c (mem_of_mem_labelEnds hc))]
      exact h c hc
    · intro h c hc
      rw [← blank_python (hfits.printable c (mem_of_mem_labelEnds hc))]
      exact h c hc
  · refine (accepts_refuses_iff .typescript .go).trans (and_congr_right fun _ => and_congr_left fun hends => ?_)
    exact exists_congr fun c => and_congr_right fun hc => isUnicodeSpace_iff (hends c hc)
  · refine (accepts_refuses_iff .go .typescript).trans (and_congr_right fun _ => and_congr_left fun hends => ?_)
    exact exists_congr fun c => and_congr_right fun hc => isWhiteSpace_iff_bom (hends c hc)

end Labels

/-! ### The answer -/

structure EnrollmentResult where
  fingerprint : String
  pending : Bool
  deriving DecidableEq

/-- The text behind a prefix. -/
def textBehind (start s : String) : Option String :=
  if start.toList.isPrefixOf s.toList then some (String.ofList (s.toList.drop start.toList.length)) else none

/-- What a language says of an answer it cannot use: the text of its `EnrollmentError`. -/
structure ReplyErrors where
  unexpected : String → String
  other : String → String → String

/-- What comes behind one of the two prefixes. -/
def replyResult (reply : String) : Option EnrollmentResult :=
  ((textBehind "pending " reply).map fun fingerprint => { fingerprint, pending := true : EnrollmentResult }).or
    ((textBehind "enrolled " reply).map fun fingerprint => { fingerprint, pending := false })

def parseEnrollmentReply (errors : ReplyErrors) (reply clientFingerprint : String) : Except String EnrollmentResult :=
  match replyResult reply with
  | none => .error (errors.unexpected reply)
  | some result =>
    if result.fingerprint = "" then .error (errors.unexpected reply)
    else if result.fingerprint ≠ clientFingerprint then .error (errors.other result.fingerprint clientFingerprint)
    else .ok result

/-- `quote` is `%q`, `!r` and `JSON.stringify`. -/
def Language.replyErrors (quote : String → String) : Language → ReplyErrors
  | go =>
    { unexpected := fun reply => s!"enrollment failed: unexpected response {quote reply}"
      other := fun theirs ours =>
        s!"enrollment failed: signer answered for {theirs}, but this client authenticated with {ours}" }
  | _ =>
    { unexpected := fun reply => s!"Unexpected enrollment response: {quote reply}"
      other := fun theirs ours => s!"Signer answered for {theirs}, but this client authenticated with {ours}" }

def Language.parseEnrollmentReply (l : Language) (quote : String → String) :
    String → String → Except String EnrollmentResult :=
  AplaneSdk.parseEnrollmentReply (l.replyErrors quote)

/-- The signer's answer, as it is written. -/
def EnrollmentResult.text (r : EnrollmentResult) : String :=
  (if r.pending then "pending " else "enrolled ") ++ r.fingerprint

section Replies

variable {errors : ReplyErrors} {reply fingerprint : String} {r : EnrollmentResult}

theorem textBehind_eq_some {start s rest : String} : textBehind start s = some rest ↔ s = start ++ rest := by
  have hchars : s = start ++ rest ↔ s.toList = start.toList ++ rest.toList := by
    rw [← String.toList_append, String.toList_inj]
  rw [hchars]
  unfold textBehind
  constructor
  · intro h
    simp only [Option.ite_none_right_eq_some, Option.some.injEq] at h
    obtain ⟨hstart, rfl⟩ := h
    rw [String.toList_ofList]
    exact List.prefix_iff_eq_append.mp (List.isPrefixOf_iff_prefix.mp hstart) |>.symm
  · intro h
    rw [h, if_pos (List.isPrefixOf_iff_prefix.mpr (List.prefix_append ..)), List.drop_left, String.ofList_toList]

theorem pending_ne_enrolled (a b : String) : "pending " ++ a ≠ "enrolled " ++ b := by
  intro h
  have hchars := congrArg String.toList h
  rw [String.toList_append, String.toList_append] at hchars
  cases hchars

theorem replyResult_eq_some : replyResult reply = some r ↔ reply = r.text := by
  obtain ⟨theirs, pending⟩ := r
  unfold replyResult
  rw [Option.or_eq_some_iff, Option.map_eq_some_iff, Option.map_eq_none_iff, Option.map_eq_some_iff]
  cases pending with
  | true =>
    show _ ↔ reply = "pending " ++ theirs
    constructor
    · rintro (⟨rest, hrest, hr⟩ | ⟨-, rest, -, hr⟩)
      · cases hr
        exact textBehind_eq_some.mp hrest
      · cases hr
    · intro h
      exact Or.inl ⟨theirs, textBehind_eq_some.mpr h, rfl⟩
  | false =>
    show _ ↔ reply = "enrolled " ++ theirs
    constructor
    · rintro (⟨rest, -, hr⟩ | ⟨-, rest, hrest, hr⟩)
      · cases hr
      · cases hr
        exact textBehind_eq_some.mp hrest
    · intro h
      refine Or.inr ⟨?_, theirs, textBehind_eq_some.mpr h, rfl⟩
      rw [Option.eq_none_iff_forall_ne_some]
      intro rest hrest
      rw [textBehind_eq_some, h] at hrest
      exact pending_ne_enrolled _ _ hrest.symm

/-- An answer is read as what it was written for, if it is about this client's key. -/
theorem parseEnrollmentReply_ok : parseEnrollmentReply errors reply fingerprint = .ok r ↔
    reply = r.text ∧ r.fingerprint = fingerprint ∧ fingerprint ≠ "" := by
  unfold parseEnrollmentReply
  cases hresult : replyResult reply with
  | none =>
    constructor
    · nofun
    · rintro ⟨htext, -⟩
      rw [replyResult_eq_some.mpr htext] at hresult
      cases hresult
  | some result =>
    have hown : reply = r.text ↔ result = r := by
      rw [← replyResult_eq_some, hresult, Option.some.injEq]
    rw [hown]
    dsimp only
    by_cases hempty : result.fingerprint = ""
    · rw [if_pos hempty]
      constructor
      · nofun
      · rintro ⟨rfl, rfl, hne⟩
        exact absurd hempty hne
    by_cases hother : result.fingerprint = fingerprint
    · rw [if_neg hempty, if_neg (by simp [hother]), Except.ok.injEq]
      constructor
      · rintro rfl
        exact ⟨rfl, hother, hother ▸ hempty⟩
      · exact fun h => h.1
    · rw [if_neg hempty, if_pos hother]
      constructor
      · nofun
      · rintro ⟨rfl, hsame, -⟩
        exact absurd hsame hother

end Replies

end AplaneSdk
