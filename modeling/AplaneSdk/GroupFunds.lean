/-
# What a group asks of each account

A prepared payment records what its sender has available, and a prepared asset
transfer the sender's holding. The group checks add up, in a map from sender or
holding to running totals, what the items of the group ask, and compare it with
the value recorded last. Python and TypeScript add unbounded integers. Go adds
in 64 bits: a total that reaches 2^64 is compared by its remainder, so a group
that asks for too much can pass.

Key definitions: `GroupCheck`, `groupBalanceCheck`, `Language.paymentGroupBalanceCheck`,
`Language.asaTransferGroupBalanceCheck`, `PreparedTransaction.Records`, `totalBy`.
Key theorems: `groupTotals_ok`, `groupBalanceCheck_iff`, `exact_iff_fits`,
`groupBalance_exact`.
-/
import Mathlib.Algebra.BigOperators.Group.List.Basic
import AplaneSdk.Lib.Grouping
import AplaneSdk.Calls

namespace AplaneSdk

open Checks

/-! ### The two checks -/

/-- What a number becomes in the arithmetic of an SDK. -/
def Language.reduce : Language → ℕ → ℕ
  | go, n => n % 2 ^ 64
  | python, n => n
  | typescript, n => n

/-- `+` on the amounts of an SDK. -/
def Language.add (L : Language) (a b : ℕ) : ℕ := L.reduce (a + b)

/-- The running totals of one sender or holding. -/
structure Totals where
  available : ℤ := 0
  required : ℕ := 0

/-- One of the two group checks. -/
structure GroupCheck where
  /-- The error of an item without a transaction. -/
  missing : String
  key : Txn → String
  required : Language → Txn → ℕ
  /-- The check of an item that records what is available, and the entry. -/
  checkName : String
  entry : String
  /-- The start of the error. -/
  short : String
  reportName : String
  countEntry : Language → String

/-- What a check records under `entry`. Go leaves the total as it is where the
entry is missing; Python and TypeScript read a missing entry as 0, and Python
skips an empty map. -/
def Language.readEntry (L : Language) (entry : String) (check : PreparedCheck) : Option ℤ :=
  match L, check.data with
  | _, none => none
  | go, some data => data.lookup entry
  | python, some [] => none
  | python, some data => some ((data.lookup entry).getD 0)
  | typescript, some data => some ((data.lookup entry).getD 0)

/-- Take over what the checks of an item record. -/
def GroupCheck.record (what : GroupCheck) (L : Language) (t : Totals) (check : PreparedCheck) : Totals :=
  if check.name ≠ what.checkName then t
  else match L.readEntry what.entry check with
    | some value => { t with available := value }
    | none => t

/-- Count one item. -/
def GroupCheck.count (what : GroupCheck) (L : Language) (t : Totals) (item : Txn × List PreparedCheck) :
    Totals :=
  item.2.foldl (what.record L) { t with required := L.add t.required (what.required L item.1) }

/-- One turn of the loop over the items. -/
def GroupCheck.addItem (what : GroupCheck) (L : Language) (totals : List (String × Totals))
    (item : PreparedTransaction) : Except SdkError (List (String × Totals)) :=
  match item.transaction with
  | none => .error { text := what.missing }
  | some txn => .ok (Grouping.upsert {} (fun t => what.count L t (txn, item.checks)) (what.key txn) totals)

def groupTotals (L : Language) (what : GroupCheck) (items : List PreparedTransaction) :
    Except SdkError (List (String × Totals)) := items.foldlM (what.addItem L) []

def groupBalanceCheck (L : Language) (what : GroupCheck) (items : List PreparedTransaction) :
    Except SdkError PreparedCheck := do
  let totals ← groupTotals L what items
  forEach (fun _ entry => failIf (entry.2.available < (entry.2.required : ℤ))
    { text := s!"{what.short} for {entry.1}: available {entry.2.available}, required {entry.2.required}" })
    0 totals
  pure { name := what.reportName, status := "ok", data := some [(what.countEntry L, (totals.length : ℤ))] }

def assetTransferType : TxType := .other "axfer"

/-- The amount of a payment. Python reads `amt`, or else `amount`, which an
asset transfer has. -/
def Language.paymentAmount : Language → Txn → ℕ
  | python, txn => if txn.type = assetTransferType then txn.assetAmount else txn.amount
  | _, txn => txn.amount

def paymentGroup : GroupCheck where
  missing := "payment group transaction is required"
  key txn := txn.sender
  required L txn := L.add (L.paymentAmount txn) txn.fee
  checkName := "payment_balance"
  entry := "available"
  short := "payment group insufficient funds"
  reportName := "payment_group_balance"
  countEntry
    | .typescript => "senderCount"
    | _ => "sender_count"

/-- The sender and asset of a holding, as one key. -/
def holdingKey (sender : String) (asset : ℕ) : String := s!"{sender}:{asset}"

def asaTransferGroup : GroupCheck where
  missing := "ASA transfer group transaction is required"
  key txn := holdingKey txn.sender txn.xferAsset
  required _ txn := txn.assetAmount
  checkName := "asa_transfer"
  entry := "balance"
  short := "ASA transfer group insufficient asset balance"
  reportName := "asa_transfer_group_balance"
  countEntry
    | .typescript => "holdingCount"
    | _ => "holding_count"

/-- `paymentGroupBalanceCheck`, `_validate_payment_group`, `validatePaymentGroup`. -/
def Language.paymentGroupBalanceCheck (L : Language) (items : List PreparedTransaction) :
    Except SdkError PreparedCheck := groupBalanceCheck L paymentGroup items

/-- `asaTransferGroupBalanceCheck`, `_validate_asa_transfer_group`,
`validateAsaTransferGroup`. -/
def Language.asaTransferGroupBalanceCheck (L : Language) (items : List PreparedTransaction) :
    Except SdkError PreparedCheck := groupBalanceCheck L asaTransferGroup items

/-! ### What they compare -/

/-- The item carries checks of this name, and they all record the value. -/
def PreparedTransaction.Records (item : PreparedTransaction) (name entry : String) (value : ℤ) : Prop :=
  (∃ check ∈ item.checks, check.name = name) ∧
    ∀ check ∈ item.checks, check.name = name →
      ∃ data, check.data = some data ∧ data.lookup entry = some value

/-- What the items with key `k` ask, added up without bound. -/
def totalBy (key : Txn → String) (need : Txn → ℕ) (items : List PreparedTransaction) (k : String) : ℕ :=
  (((items.filterMap (·.transaction)).filter (key · = k)).map need).sum

section Totals

variable {L : Language} {what : GroupCheck} {items : List PreparedTransaction}

@[simp] theorem Language.reduce_python (n : ℕ) : Language.python.reduce n = n := rfl

@[simp] theorem Language.reduce_typescript (n : ℕ) : Language.typescript.reduce n = n := rfl

@[simp] theorem Language.reduce_go (n : ℕ) : Language.go.reduce n = n % 2 ^ 64 := rfl

theorem Language.reduce_add_reduce (a b : ℕ) : L.reduce (a + L.reduce b) = L.reduce (a + b) := by
  cases L with
  | go => exact Nat.add_mod_mod ..
  | python => rfl
  | typescript => rfl

theorem Language.reduce_reduce_add (a b : ℕ) : L.reduce (L.reduce a + b) = L.reduce (a + b) := by
  rw [Nat.add_comm, L.reduce_add_reduce, Nat.add_comm]

theorem Language.reduce_reduce (n : ℕ) : L.reduce (L.reduce n) = L.reduce n :=
  L.reduce_reduce_add n 0

/-- The transaction of each item with its checks. -/
def loaded (items : List PreparedTransaction) : List (Txn × List PreparedCheck) :=
  items.filterMap fun item => item.transaction.map fun txn => (txn, item.checks)

/-- The loop keeps the totals of the keys, unless an item has no transaction. -/
theorem groupTotals_ok {totals : List (String × Totals)} (h : ∀ item ∈ items, item.transaction.isSome) :
    groupTotals L what items = .ok totals ↔
      totals = Grouping.tally (fun item => what.key item.1) {} (what.count L) (loaded items) := by
  have hfold : ∀ (rest : List PreparedTransaction) (acc : List (String × Totals)),
      (∀ item ∈ rest, item.transaction.isSome) →
      rest.foldlM (what.addItem L) acc = .ok ((loaded rest).foldl (fun totals x =>
        Grouping.upsert {} (fun t => what.count L t x) (what.key x.1) totals) acc) := by
    intro rest
    induction rest with
    | nil => exact fun _ _ => rfl
    | cons item rest ih =>
      intro acc hrest
      obtain ⟨txn, htxn⟩ := Option.isSome_iff_exists.mp (hrest item (List.mem_cons_self ..))
      rw [List.foldlM_cons, GroupCheck.addItem, loaded, List.filterMap_cons, htxn]
      exact ih _ fun x hx => hrest x (List.mem_cons_of_mem _ hx)
  rw [groupTotals, hfold items [] h, Except.ok.injEq]
  exact eq_comm

theorem record_available {t : Totals} {check : PreparedCheck} {value : ℤ}
    (h : check.name = what.checkName →
      ∃ data, check.data = some data ∧ data.lookup what.entry = some value) :
    (what.record L t check).required = t.required ∧
      (what.record L t check).available = if check.name = what.checkName then value else t.available := by
  unfold GroupCheck.record
  by_cases hname : check.name = what.checkName
  · obtain ⟨data, hdata, hlookup⟩ := h hname
    have hread : L.readEntry what.entry check = some value := by
      unfold Language.readEntry
      rw [hdata]
      cases L with
      | go => exact hlookup
      | python =>
        cases data with
        | nil => simp at hlookup
        | cons _ _ => simp [hlookup]
      | typescript => simp [hlookup]
    rw [if_neg (not_not.mpr hname), hread, if_pos hname]
    exact ⟨rfl, rfl⟩
  · rw [if_pos hname, if_neg hname]
    exact ⟨rfl, rfl⟩

/-- The checks of an item leave the amount asked for alone, and set what is
available to the value they record. -/
theorem foldl_record {value : ℤ} : ∀ (checks : List PreparedCheck) (t : Totals),
    (∀ check ∈ checks, check.name = what.checkName →
      ∃ data, check.data = some data ∧ data.lookup what.entry = some value) →
    (checks.foldl (what.record L) t).required = t.required ∧
      (checks.foldl (what.record L) t).available =
        if ∃ check ∈ checks, check.name = what.checkName then value else t.available
  | [], t, _ => by simp
  | check :: checks, t, h => by
    obtain ⟨hreq, hav⟩ := record_available (L := L) (t := t) (h check (List.mem_cons_self ..))
    obtain ⟨ihreq, ihav⟩ := foldl_record checks (what.record L t check)
      fun c hc => h c (List.mem_cons_of_mem _ hc)
    refine ⟨ihreq.trans hreq, ?_⟩
    rw [List.foldl_cons, ihav, hav]
    by_cases hrest : ∃ c ∈ checks, c.name = what.checkName
    · obtain ⟨c, hc, hname⟩ := hrest
      rw [if_pos ⟨c, hc, hname⟩, if_pos ⟨c, List.mem_cons_of_mem _ hc, hname⟩]
    · rw [if_neg hrest]
      by_cases hfirst : check.name = what.checkName
      · rw [if_pos hfirst, if_pos ⟨check, List.mem_cons_self .., hfirst⟩]
      · rw [if_neg hfirst, if_neg]
        rintro ⟨c, hc, hname⟩
        rcases List.mem_cons.mp hc with rfl | hc
        · exact hfirst hname
        · exact hrest ⟨c, hc, hname⟩

/-- The items with one key: the amounts add up in the arithmetic of the SDK,
and what is available is the value they all record. -/
theorem foldl_count {value : ℤ} (need : Txn → ℕ) :
    ∀ (xs : List (Txn × List PreparedCheck)) (t : Totals),
    (∀ x ∈ xs, L.reduce (what.required L x.1) = L.reduce (need x.1) ∧
      (∃ check ∈ x.2, check.name = what.checkName) ∧
      ∀ check ∈ x.2, check.name = what.checkName →
        ∃ data, check.data = some data ∧ data.lookup what.entry = some value) →
    L.reduce (xs.foldl (what.count L) t).required = L.reduce (t.required + (xs.map (need ·.1)).sum) ∧
      (xs ≠ [] → (xs.foldl (what.count L) t).required = L.reduce (xs.foldl (what.count L) t).required ∧
        (xs.foldl (what.count L) t).available = value)
  | [], t, _ => by simp
  | x :: xs, t, h => by
    obtain ⟨hneed, hcarries, hrecords⟩ := h x (List.mem_cons_self ..)
    obtain ⟨hreq, hav⟩ := foldl_record (L := L) x.2
      { t with required := L.add t.required (what.required L x.1) } hrecords
    rw [if_pos hcarries] at hav
    obtain ⟨ihsum, ihlast⟩ := foldl_count need xs (what.count L t x)
      fun y hy => h y (List.mem_cons_of_mem _ hy)
    have hcount : (what.count L t x).required = L.reduce (t.required + what.required L x.1) := hreq
    constructor
    · rw [List.foldl_cons, ihsum, hcount, L.reduce_reduce_add, List.map_cons, List.sum_cons]
      calc L.reduce (t.required + what.required L x.1 + (xs.map (need ·.1)).sum)
          = L.reduce (t.required + (xs.map (need ·.1)).sum + L.reduce (what.required L x.1)) := by
            rw [L.reduce_add_reduce, Nat.add_right_comm]
        _ = L.reduce (t.required + (xs.map (need ·.1)).sum + need x.1) := by
            rw [hneed, L.reduce_add_reduce]
        _ = L.reduce (t.required + (need x.1 + (xs.map (need ·.1)).sum)) := by
            rw [Nat.add_assoc, Nat.add_comm (need x.1)]
    · intro _
      by_cases hxs : xs = []
      · subst hxs
        refine ⟨?_, hav⟩
        rw [List.foldl_cons, List.foldl_nil, hcount, L.reduce_reduce]
      · exact ihlast hxs

/-- **What a group check decides.** Where the items of a key all record one
value, the check passes exactly when each total, in the arithmetic of the SDK,
is at most the value recorded. -/
theorem groupBalanceCheck_iff (need : Txn → ℕ) {recorded : Txn → ℤ}
    (hitems : ∀ item ∈ items, ∃ txn, item.transaction = some txn ∧
      L.reduce (what.required L txn) = L.reduce (need txn) ∧
      item.Records what.checkName what.entry (recorded txn))
    (hsame : ∀ a ∈ items.filterMap (·.transaction), ∀ b ∈ items.filterMap (·.transaction),
      what.key a = what.key b → recorded a = recorded b) :
    (∃ check, groupBalanceCheck L what items = .ok check) ↔
      ∀ txn ∈ items.filterMap (·.transaction),
        (L.reduce (totalBy what.key need items (what.key txn)) : ℤ) ≤ recorded txn := by
  have hsome : ∀ item ∈ items, item.transaction.isSome := by
    intro item hitem
    obtain ⟨txn, htxn, -⟩ := hitems item hitem
    rw [htxn]
    rfl
  have hfst : (loaded items).map (·.1) = items.filterMap (·.transaction) := by
    rw [loaded, List.map_filterMap]
    congr 1
    funext item
    cases item.transaction <;> rfl
  have hmem : ∀ x ∈ loaded items, x.1 ∈ items.filterMap (·.transaction) := fun x hx =>
    hfst ▸ List.mem_map_of_mem hx
  -- the total of a key, whatever item it is read off
  have htotal : ∀ x ∈ loaded items, ∀ t, t = ((loaded items).filter (what.key ·.1 = what.key x.1)).foldl
      (what.count L) {} → t.required = L.reduce (totalBy what.key need items (what.key x.1)) ∧
        t.available = recorded x.1 := by
    rintro x hx _ rfl
    have hne : (loaded items).filter (what.key ·.1 = what.key x.1) ≠ [] :=
      List.ne_nil_of_mem (List.mem_filter.mpr ⟨hx, by simp⟩)
    have hgroup : ∀ y ∈ (loaded items).filter (what.key ·.1 = what.key x.1),
        L.reduce (what.required L y.1) = L.reduce (need y.1) ∧
        (∃ check ∈ y.2, check.name = what.checkName) ∧
        ∀ check ∈ y.2, check.name = what.checkName →
          ∃ data, check.data = some data ∧ data.lookup what.entry = some (recorded x.1) := by
      intro y hy
      rw [List.mem_filter, decide_eq_true_eq] at hy
      obtain ⟨item, hitem, hloaded⟩ := List.mem_filterMap.mp hy.1
      obtain ⟨txn, htxn, hneed, hrec⟩ := hitems item hitem
      rw [htxn] at hloaded
      cases hloaded
      rw [hsame _ (hmem _ hy.1) _ (hmem _ hx) hy.2] at hrec
      exact ⟨hneed, hrec⟩
    obtain ⟨hsum, hlast⟩ := foldl_count need _ {} hgroup
    obtain ⟨hreduced, hav⟩ := hlast hne
    refine ⟨?_, hav⟩
    rw [hreduced, hsum, Nat.zero_add]
    congr 1
    rw [totalBy, ← hfst, List.filter_map, List.map_map]
    rfl
  have hcheck : (∃ check, groupBalanceCheck L what items = .ok check) ↔
      ∀ k t, (k, t) ∈ Grouping.tally (fun item => what.key item.1) {} (what.count L) (loaded items) →
        (t.required : ℤ) ≤ t.available := by
    simp only [groupBalanceCheck, bind_eq_ok (α := List (String × Totals)), groupTotals_ok hsome,
      seq_eq_ok, pure_eq_ok, exists_eq_left, forEach_ok, failIf_ok, not_lt, exists_and_left,
      exists_eq', and_true,
      forall_getElem? (P := fun entry : String × Totals => (entry.2.required : ℤ) ≤ entry.2.available)]
    exact ⟨fun h k t hkt => h (k, t) hkt, fun h entry he => h entry.1 entry.2 he⟩
  rw [hcheck]
  constructor
  · intro h txn htxn
    rw [← hfst, List.mem_map] at htxn
    obtain ⟨x, hx, rfl⟩ := htxn
    obtain ⟨hreq, hav⟩ := htotal x hx _ rfl
    have := h _ _ (Grouping.mem_tally.mpr ⟨⟨x, hx, rfl⟩, rfl⟩)
    rwa [hreq, hav] at this
  · intro h k t hkt
    obtain ⟨⟨x, hx, rfl⟩, ht⟩ := Grouping.mem_tally.mp hkt
    obtain ⟨hreq, hav⟩ := htotal x hx t ht
    rw [hreq, hav]
    exact h _ (hmem x hx)

end Totals

/-! ### When the checks are exact -/

/-- The check passes exactly when every total is at most the value recorded, so
the SDKs accept the same groups. -/
def ExactCheck (check : Language → List PreparedTransaction → Except SdkError PreparedCheck)
    (items : List PreparedTransaction) (total : Txn → ℕ) (recorded : Txn → ℤ) : Prop :=
  (∀ L, (∃ report, check L items = .ok report) ↔
    ∀ txn ∈ items.filterMap (·.transaction), (total txn : ℤ) ≤ recorded txn) ∧
  ∀ L L', (∃ report, check L items = .ok report) ↔ ∃ report, check L' items = .ok report

/-- No total reaches 2^64, or the remainder of one is still too much. -/
def WithinWord (items : List PreparedTransaction) (total : Txn → ℕ) (recorded : Txn → ℤ) : Prop :=
  (∀ txn ∈ items.filterMap (·.transaction), total txn < 2 ^ 64) ∨
    ∃ txn ∈ items.filterMap (·.transaction), recorded txn < ((total txn % 2 ^ 64 : ℕ) : ℤ)

/-- A check that compares the totals as its SDK adds them is exact unless Go's
remainders all pass and a total does not fit. -/
theorem exact_iff_withinWord {check : Language → List PreparedTransaction → Except SdkError PreparedCheck}
    {items : List PreparedTransaction} {total : Txn → ℕ} {recorded : Txn → ℤ}
    (hcheck : ∀ L : Language, (∃ report, check L items = .ok report) ↔
      ∀ txn ∈ items.filterMap (·.transaction), (L.reduce (total txn) : ℤ) ≤ recorded txn)
    (hword : ∀ txn, recorded txn < 2 ^ 64) :
    ExactCheck check items total recorded ↔ WithinWord items total recorded := by
  constructor
  · intro h
    by_cases hfit : ∀ txn ∈ items.filterMap (·.transaction), total txn < 2 ^ 64
    · exact Or.inl hfit
    · push Not at hfit
      obtain ⟨big, hbig, hle⟩ := hfit
      -- a total that does not fit is refused in fact, so Go has to refuse too
      have hgo := (hcheck .go).symm.trans (h.1 .go)
      by_contra hnone
      rw [WithinWord, not_or] at hnone
      have hpass : ∀ txn ∈ items.filterMap (·.transaction),
          (Language.go.reduce (total txn) : ℤ) ≤ recorded txn := by
        intro txn htxn
        by_contra hlt
        exact hnone.2 ⟨txn, htxn, not_le.mp hlt⟩
      have := hgo.mp hpass big hbig
      have := hword big
      omega
  · rintro (hfit | ⟨txn, htxn, hlt⟩)
    · have hreduce : ∀ L : Language, ∀ txn ∈ items.filterMap (·.transaction),
          L.reduce (total txn) = total txn := by
        intro L txn htxn
        cases L with
        | go => exact Nat.mod_eq_of_lt (hfit txn htxn)
        | python => rfl
        | typescript => rfl
      have hexact : ∀ L : Language, (∃ report, check L items = .ok report) ↔
          ∀ txn ∈ items.filterMap (·.transaction), (total txn : ℤ) ≤ recorded txn := by
        intro L
        rw [hcheck L]
        exact forall₂_congr fun txn htxn => by rw [hreduce L txn htxn]
      exact ⟨hexact, fun L L' => (hexact L).trans (hexact L').symm⟩
    · have hmod : total txn % 2 ^ 64 ≤ total txn := Nat.mod_le ..
      have hrefused : ∀ L : Language, ¬ ∃ report, check L items = .ok report := by
        intro L
        rw [hcheck L]
        intro h
        have hle := h txn htxn
        cases L with
        | go => exact absurd hle (not_le.mpr hlt)
        | python =>
          rw [Language.reduce_python] at hle
          omega
        | typescript =>
          rw [Language.reduce_typescript] at hle
          omega
      have hspec : ¬ ∀ txn ∈ items.filterMap (·.transaction), (total txn : ℤ) ≤ recorded txn := by
        intro h
        have := h txn htxn
        omega
      exact ⟨fun L => iff_of_false (hrefused L) hspec, fun L L' => iff_of_false (hrefused L) (hrefused L')⟩

/-- The microAlgos the payments of a sender take, fees included. -/
def paymentTotal (payments : List PreparedTransaction) (sender : String) : ℕ :=
  totalBy (·.sender) (fun txn => txn.amount + txn.fee) payments sender

/-- The units of an asset the transfers of a sender take. -/
def assetTotal (transfers : List PreparedTransaction) (sender : String) (asset : ℕ) : ℕ :=
  (((transfers.filterMap (·.transaction)).filter fun txn =>
    txn.sender = sender ∧ txn.xferAsset = asset).map (·.assetAmount)).sum

/-- A key names one sender and one asset: no digit is a colon. -/
theorem holdingKey_inj {s s' : String} {a a' : ℕ} :
    holdingKey s a = holdingKey s' a' ↔ s = s' ∧ a = a' := by
  refine ⟨fun h => ?_, by rintro ⟨rfl, rfl⟩; rfl⟩
  have hcolon : ∀ n : ℕ, ':' ∉ Nat.toDigits 10 n := fun n hmem =>
    absurd (Nat.isDigit_of_mem_toDigits (by decide) (by decide) hmem) (by decide)
  have hkey : ∀ (s : String) (n : ℕ),
      (holdingKey s n).toList = s.toList ++ ':' :: Nat.toDigits 10 n := fun s n => by
    show (s ++ ":" ++ n.repr).toList = _
    simp
  have hlist := congrArg String.toList h
  rw [hkey, hkey] at hlist
  have hparts : s.toList = s'.toList ∧ Nat.toDigits 10 a = Nat.toDigits 10 a' := by
    rcases List.append_eq_append_iff.mp hlist with ⟨c, hs, hd⟩ | ⟨c, hs, hd⟩
    · cases c with
      | nil => simp_all
      | cons x c =>
        have := (List.cons.inj hd).2
        exact absurd (this ▸ List.mem_append_right c (List.mem_cons_self ..)) (hcolon a)
    · cases c with
      | nil => simp_all
      | cons x c =>
        have := (List.cons.inj hd).2
        exact absurd (this ▸ List.mem_append_right c (List.mem_cons_self ..)) (hcolon a')
  have hasset := congrArg (fun digits => Nat.ofDigitChars 10 digits 0) hparts.2
  simp only [Nat.ofDigitChars_ten_toDigits] at hasset
  exact ⟨String.toList_inj.mp hparts.1, hasset⟩

theorem totalBy_asaTransferGroup (transfers : List PreparedTransaction) (sender : String) (asset : ℕ) :
    totalBy asaTransferGroup.key (·.assetAmount) transfers (holdingKey sender asset) =
      assetTotal transfers sender asset := by
  rw [totalBy, assetTotal]
  congr 2
  refine List.filter_congr fun txn _ => ?_
  exact decide_eq_decide.mpr holdingKey_inj

theorem paymentGroupBalanceCheck_iff {L : Language} {payments : List PreparedTransaction}
    (available : String → ℤ)
    (hp : ∀ item ∈ payments, ∃ txn, item.transaction = some txn ∧ txn.type = .payment ∧
      item.Records "payment_balance" "available" (available txn.sender)) :
    (∃ report, L.paymentGroupBalanceCheck payments = .ok report) ↔
      ∀ txn ∈ payments.filterMap (·.transaction),
        (L.reduce (paymentTotal payments txn.sender) : ℤ) ≤ available txn.sender := by
  refine groupBalanceCheck_iff (fun txn => txn.amount + txn.fee) (fun item hitem => ?_)
    (fun a _ b _ h => congrArg available h)
  obtain ⟨txn, htxn, htype, hrec⟩ := hp item hitem
  refine ⟨txn, htxn, ?_, hrec⟩
  have hne : TxType.payment ≠ assetTransferType := by decide
  have hamount : L.paymentAmount txn = txn.amount := by
    cases L with
    | go => rfl
    | python => rw [Language.paymentAmount, htype, if_neg hne]
    | typescript => rfl
  show L.reduce (L.add (L.paymentAmount txn) txn.fee) = _
  rw [hamount, Language.add, L.reduce_reduce]

theorem asaTransferGroupBalanceCheck_iff {L : Language} {transfers : List PreparedTransaction}
    {balance : String → ℕ → ℤ}
    (ht : ∀ item ∈ transfers, ∃ txn, item.transaction = some txn ∧ txn.type = assetTransferType ∧
      item.Records "asa_transfer" "balance" (balance txn.sender txn.xferAsset)) :
    (∃ report, L.asaTransferGroupBalanceCheck transfers = .ok report) ↔
      ∀ txn ∈ transfers.filterMap (·.transaction),
        (L.reduce (assetTotal transfers txn.sender txn.xferAsset) : ℤ) ≤
          balance txn.sender txn.xferAsset := by
  simp only [← totalBy_asaTransferGroup]
  refine groupBalanceCheck_iff (·.assetAmount) (fun item hitem => ?_) (fun a _ b _ h => ?_)
  · obtain ⟨txn, htxn, -, hrec⟩ := ht item hitem
    exact ⟨txn, htxn, rfl, hrec⟩
  · obtain ⟨hs, ha⟩ := holdingKey_inj.mp h
    rw [hs, ha]

/-- **When the group checks are exact.** Over payments and asset transfers that
record what their senders have, a check passes in every SDK exactly when each
sender, or each holding, can meet the sum of what is asked of it, if and only
if no sum reaches 2^64 or the remainder of one is refused anyway. -/
theorem groupBalance_exact (payments transfers : List PreparedTransaction) (available : String → ℤ)
    (balance : String → ℕ → ℤ)
    (hp : ∀ item ∈ payments, ∃ txn, item.transaction = some txn ∧ txn.type = .payment ∧
      item.Records "payment_balance" "available" (available txn.sender))
    (ht : ∀ item ∈ transfers, ∃ txn, item.transaction = some txn ∧ txn.type = assetTransferType ∧
      item.Records "asa_transfer" "balance" (balance txn.sender txn.xferAsset))
    (hav : ∀ s, available s < 2 ^ 64) (hbal : ∀ s a, balance s a < 2 ^ 64) :
    (ExactCheck Language.paymentGroupBalanceCheck payments
        (fun txn => paymentTotal payments txn.sender) (fun txn => available txn.sender) ↔
      WithinWord payments (fun txn => paymentTotal payments txn.sender)
        (fun txn => available txn.sender)) ∧
    (ExactCheck Language.asaTransferGroupBalanceCheck transfers
        (fun txn => assetTotal transfers txn.sender txn.xferAsset)
        (fun txn => balance txn.sender txn.xferAsset) ↔
      WithinWord transfers (fun txn => assetTotal transfers txn.sender txn.xferAsset)
        (fun txn => balance txn.sender txn.xferAsset)) :=
  ⟨exact_iff_withinWord (fun _ => paymentGroupBalanceCheck_iff available hp) fun txn => hav txn.sender,
    exact_iff_withinWord (fun _ => asaTransferGroupBalanceCheck_iff ht) fun txn =>
      hbal txn.sender txn.xferAsset⟩

namespace Demo

def paymentItem : PreparedTransaction where
  transaction := some payment
  checks := [{ name := "payment_balance", status := "ok", data := some [("available", 5000)] }]

/-- Half of all units an asset can have, from a holding that has no more. -/
def halfTransferItem : PreparedTransaction where
  transaction := some
    { type := assetTransferType, sender := payer, fee := 1000, xferAsset := 7, assetAmount := 2 ^ 63 }
  checks := [{ name := "asa_transfer", status := "ok", data := some [("balance", 2 ^ 63)] }]

theorem paymentItem_records : ∀ item ∈ [paymentItem], ∃ txn, item.transaction = some txn ∧
    txn.type = .payment ∧ item.Records "payment_balance" "available" 5000 := by
  intro item hitem
  cases List.mem_singleton.mp hitem
  refine ⟨payment, rfl, rfl, ⟨_, List.mem_singleton.mpr rfl, rfl⟩, fun check hcheck _ => ?_⟩
  cases List.mem_singleton.mp hcheck
  exact ⟨_, rfl, rfl⟩

theorem halfTransferItem_records : ∀ item ∈ [halfTransferItem, halfTransferItem], ∃ txn,
    item.transaction = some txn ∧ txn.type = assetTransferType ∧
      item.Records "asa_transfer" "balance" (2 ^ 63) := by
  intro item hitem
  have hitem : item = halfTransferItem := by simpa using hitem
  subst hitem
  refine ⟨_, rfl, rfl, ⟨_, List.mem_singleton.mpr rfl, rfl⟩, fun check hcheck _ => ?_⟩
  cases List.mem_singleton.mp hcheck
  exact ⟨_, rfl, rfl⟩

/-- Twice the half is all there is room for and more: Go adds it up to zero. -/
theorem halfTransfers_wrap :
    (∀ item ∈ [halfTransferItem, halfTransferItem], ∃ txn, item.transaction = some txn ∧
      txn.type = assetTransferType ∧ item.Records "asa_transfer" "balance" (2 ^ 63)) ∧
    ¬ ExactCheck Language.asaTransferGroupBalanceCheck [halfTransferItem, halfTransferItem]
      (fun txn => assetTotal [halfTransferItem, halfTransferItem] txn.sender txn.xferAsset)
      (fun _ => 2 ^ 63) := by
  refine ⟨halfTransferItem_records, fun h => ?_⟩
  have haccepted : ∃ report,
      Language.go.asaTransferGroupBalanceCheck [halfTransferItem, halfTransferItem] = .ok report :=
    ⟨{ name := "asa_transfer_group_balance", status := "ok", data := some [("holding_count", 1)] },
      by decide +kernel⟩
  have hsum := (h.1 .go).mp haccepted _ (List.mem_cons_self ..)
  exact absurd hsum (by decide +kernel)

theorem groupBalance_exact_payment :
    ExactCheck Language.paymentGroupBalanceCheck [paymentItem]
      (fun txn => paymentTotal [paymentItem] txn.sender) (fun _ => 5000) := by
  refine (groupBalance_exact [paymentItem] [halfTransferItem, halfTransferItem] (fun _ => 5000)
    (fun _ _ => 2 ^ 63) paymentItem_records halfTransferItem_records (fun _ => by decide)
    (fun _ _ => by decide)).1.mpr (Or.inl ?_)
  decide +kernel

end Demo

end AplaneSdk
