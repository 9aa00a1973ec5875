import Mathlib.Algebra.Order.BigOperators.Group.List
import OrderToCash.Billing.LedgerBounds

/-!
# The credit read model

A page of the credit lines, each with what its ledger ties up.  The ledger is
read as one grouped row for each line and order, and the groups of a line are
folded again as if they were its entries: one synthetic entry for each type an
order has a positive sum of.
-/

namespace OrderToCash.Billing

open OrderToCash.Checked
open OrderToCash.Contracts
open OrderToCash.Kernel
open OrderToCash.Table
open OrderToCash.Transition

structure CreditListRequest where
  retailerCode : Option String
  companyCode : Option String
  page : Option Nat
  pageSize : Option Nat
deriving DecidableEq, Repr

structure CreditView where
  creditCode : String
  retailerCode : String
  companyCode : String
  currency : CurrencyCode
  creditLimit : Int
  activeHolds : Int
  openExposure : Int
  availableCredit : Int
deriving DecidableEq, Repr

structure PageInfo where
  page : Nat
  pageSize : Nat
  total : Nat
deriving DecidableEq, Repr

structure CreditListReply where
  items : List CreditView
  page : PageInfo
deriving DecidableEq, Repr

/-- What the grouped query answers for an order on a line. -/
structure GroupedRow where
  creditId : UniqueId
  orderReference : OrderNumber
  sumHold : Int
  sumConsume : Int
  sumRelease : Int
deriving DecidableEq, Repr

/-- What the database and the identifier generator decide on their own: how two
lines compare by their codes, the order groups arrive in, and the identifiers
of the synthetic entries. -/
structure ReadSession where
  collates : CreditRow → CreditRow → Bool
  arranged : List GroupedRow → List GroupedRow
  arranged_perm : ∀ groups, (arranged groups).Perm groups
  generated : GroupedRow → CreditEntryType → UniqueId

def defaultPage : Nat := 1

def defaultPageSize : Nat := 25

def syntheticEntry (id : UniqueId) (order : OrderNumber) (amount : Int)
    (type : CreditEntryType) (currency : CurrencyCode) :
    Except KernelError CreditLedgerEntry := do
  let amount ← Money.of amount currency.text
  .ok { id := id, orderReference := order, amount := amount, type := type }

/-- `SUM(CASE WHEN type = … THEN amount ELSE 0 END)`. -/
def caseSum (type : CreditEntryType) (rows : List CreditItemRow) : Int :=
  (rows.map fun row => if row.type = type then row.amount else 0).sum

namespace ReadSession

/-- The entry a positive sum of a group stands for. -/
def entryOf (session : ReadSession) (currency : CurrencyCode) (group : GroupedRow)
    (type : CreditEntryType) (sum : Int) :
    Except KernelError (List CreditLedgerEntry) :=
  if 0 < sum then do
    let entry ← syntheticEntry (session.generated group type)
      group.orderReference sum type currency
    .ok [entry]
  else
    .ok []

def entriesOf (session : ReadSession) (currency : CurrencyCode) (group : GroupedRow) :
    Except KernelError (List CreditLedgerEntry) := do
  let holds ← session.entryOf currency group .hold group.sumHold
  let consumes ← session.entryOf currency group .consume group.sumConsume
  let releases ← session.entryOf currency group .release group.sumRelease
  .ok (holds ++ consumes ++ releases)

/-- The view of a line, from the groups that are its own. -/
def creditView (session : ReadSession) (groups : List GroupedRow)
    (row : CreditRow) : Except KernelError CreditView := do
  let entries ← (groups.filter (·.creditId = row.id)).mapM
    (session.entriesOf row.currencyCode)
  let summary := summariseLedger entries.flatten
  .ok
    { creditCode := row.code
      retailerCode := row.retailerCode
      companyCode := row.companyCode
      currency := row.currencyCode
      creditLimit := row.creditLimit
      activeHolds := summary.activeHolds
      openExposure := summary.openExposure
      availableCredit := row.creditLimit - summary.committedExposure }

end ReadSession

namespace BillingDb

/-- The lines a request asks for. -/
def listed (db : BillingDb) (query : CreditListRequest) : List CreditRow :=
  db.credits.filter fun row =>
    query.retailerCode.all (row.retailerCode = ·) ∧
      query.companyCode.all (row.companyCode = ·)

/-- The grouped read of the ledger, restricted to some lines. -/
def groupedRows (db : BillingDb) (creditIds : List UniqueId) : List GroupedRow :=
  (groupRows (fun row => (row.creditId, row.orderReference))
      (db.creditItems.filter (·.creditId ∈ creditIds))).map
    fun ((creditId, order), rows) =>
      { creditId := creditId
        orderReference := order
        sumHold := caseSum .hold rows
        sumConsume := caseSum .consume rows
        sumRelease := caseSum .release rows }

/-- The rows of a page. -/
def pageOf (db : BillingDb) (session : ReadSession) (query : CreditListRequest) :
    List CreditRow :=
  let page := query.page.getD defaultPage
  let pageSize := query.pageSize.getD defaultPageSize
  (((db.listed query).mergeSort session.collates).drop
    ((page - 1) * pageSize)).take pageSize

/-- `DrizzleCreditReadRepository.list`. -/
def list (db : BillingDb) (session : ReadSession) (query : CreditListRequest) :
    Except KernelError CreditListReply :=
  let rows := db.pageOf session query
  let pageInfo : PageInfo :=
    { page := query.page.getD defaultPage
      pageSize := query.pageSize.getD defaultPageSize
      total := (db.listed query).length }
  if rows.isEmpty then
    .ok ⟨[], pageInfo⟩
  else do
    let groups := session.arranged (db.groupedRows (rows.map CreditRow.id))
    let items ← rows.mapM (session.creditView groups)
    .ok ⟨items, pageInfo⟩

end BillingDb

/-! ## Ledgers with the same sums -/

/-- Two ledgers hold, consume and release the same for every order. -/
def SameSums (first second : List CreditLedgerEntry) : Prop :=
  ∀ type order, sumOf type (first.filter (·.orderReference = order)) =
    sumOf type (second.filter (·.orderReference = order))

/-- An order that has no entries counts for nothing in a summary. -/
theorem orderExposure_of_not_mem {entries : List CreditLedgerEntry}
    {order : OrderNumber}
    (unlisted : order ∉ entries.map CreditLedgerEntry.orderReference) :
    (orderExposure entries order).exposure = 0 ∧
      (orderExposure entries order).activeHold = 0 ∧
        (orderExposure entries order).openExposure = 0 := by
  simp [orderExposure, filter_eq_nil_of_not_mem unlisted]

/-- What an order's entries tie up depends on their sums only. -/
theorem SameSums.ofOrder {first second : List CreditLedgerEntry}
    (same : SameSums first second) (order : OrderNumber) :
    (orderExposure first order).exposure =
        (orderExposure second order).exposure ∧
      (orderExposure first order).activeHold =
        (orderExposure second order).activeHold ∧
      (orderExposure first order).openExposure =
        (orderExposure second order).openExposure := by
  simp only [orderExposure, same .hold order, same .consume order,
    same .release order, and_self]

/-- A quantity of the orders adds up to the same over both ledgers. -/
theorem sum_byOrder_eq {first second : List CreditLedgerEntry}
    {field : OrderExposure → Int}
    (fields : ∀ order, field (orderExposure first order) =
      field (orderExposure second order))
    (nothing : ∀ entries order,
      order ∉ entries.map CreditLedgerEntry.orderReference →
        field (orderExposure entries order) = 0) :
    ((summariseLedger first).byOrder.map field).sum =
      ((summariseLedger second).byOrder.map field).sum := by
  let orders := ((first ++ second).map CreditLedgerEntry.orderReference).eraseDups
  have overAll : ∀ entries : List CreditLedgerEntry, entries ⊆ first ++ second →
      ((summariseLedger entries).byOrder.map field).sum =
        (orders.map fun order => field (orderExposure entries order)).sum := by
    intro entries part
    rw [summariseLedger, List.map_map]
    apply sum_eraseDups_map (nodup_eraseDups _)
    · intro order orderMem
      rw [List.mem_eraseDups]
      exact List.map_subset _ part orderMem
    · exact nothing entries
  rw [overAll first (List.subset_append_left first second),
    overAll second (List.subset_append_right first second)]
  exact congrArg List.sum (List.map_congr_left fun order _ => fields order)

/-- Ledgers with the same sums have the same totals. -/
theorem SameSums.totals {first second : List CreditLedgerEntry}
    (same : SameSums first second) :
    (summariseLedger first).committedExposure =
        (summariseLedger second).committedExposure ∧
      (summariseLedger first).activeHolds =
        (summariseLedger second).activeHolds ∧
      (summariseLedger first).openExposure =
        (summariseLedger second).openExposure := by
  constructor
  · apply sum_byOrder_eq fun order => (same.ofOrder order).1
    exact fun _ _ unlisted => (orderExposure_of_not_mem unlisted).1
  constructor
  · apply sum_byOrder_eq fun order => (same.ofOrder order).2.1
    exact fun _ _ unlisted => (orderExposure_of_not_mem unlisted).2.1
  · apply sum_byOrder_eq fun order => (same.ofOrder order).2.2
    exact fun _ _ unlisted => (orderExposure_of_not_mem unlisted).2.2

/-! ## The synthetic entries of a line -/

/-- The sums of a group are amounts. -/
structure GroupedRow.Countable (group : GroupedRow) : Prop where
  hold : 0 ≤ group.sumHold ∧ group.sumHold ≤ Money.maxSafeInteger
  consume : 0 ≤ group.sumConsume ∧ group.sumConsume ≤ Money.maxSafeInteger
  release : 0 ≤ group.sumRelease ∧ group.sumRelease ≤ Money.maxSafeInteger

/-- The sum of a type in a group. -/
def GroupedRow.sum (group : GroupedRow) : CreditEntryType → Int
  | .hold => group.sumHold
  | .consume => group.sumConsume
  | .release => group.sumRelease

/-- The entries a positive sum stands for, where it is an amount. -/
def ReadSession.positiveEntry (session : ReadSession) (currency : CurrencyCode)
    (group : GroupedRow) (type : CreditEntryType) : List CreditLedgerEntry :=
  if 0 < group.sum type then
    [{ id := session.generated group type
       orderReference := group.orderReference
       amount := ⟨group.sum type, currency⟩
       type := type }]
  else []

def ReadSession.positiveEntries (session : ReadSession) (currency : CurrencyCode)
    (group : GroupedRow) : List CreditLedgerEntry :=
  session.positiveEntry currency group .hold ++
    session.positiveEntry currency group .consume ++
      session.positiveEntry currency group .release

namespace ReadSession

theorem entryOf_eq_ok (session : ReadSession) (currency : CurrencyCode)
    {group : GroupedRow} {type : CreditEntryType}
    (safe : 0 ≤ group.sum type ∧ group.sum type ≤ Money.maxSafeInteger) :
    session.entryOf currency group type (group.sum type) =
      .ok (session.positiveEntry currency group type) := by
  have isMoney : Money.of (group.sum type) currency.text =
      .ok ⟨group.sum type, currency⟩ := by
    rw [Money.of_text]
    exact if_pos (by omega)
  unfold entryOf positiveEntry syntheticEntry
  split
  · rw [isMoney]
    rfl
  · rfl

theorem entriesOf_eq_ok (session : ReadSession) (currency : CurrencyCode)
    {group : GroupedRow} (countable : group.Countable) :
    session.entriesOf currency group =
      .ok (session.positiveEntries currency group) := by
  have hold := @entryOf_eq_ok session currency group .hold countable.hold
  have consume := @entryOf_eq_ok session currency group .consume countable.consume
  have release := @entryOf_eq_ok session currency group .release countable.release
  simp only [GroupedRow.sum] at hold consume release
  unfold entriesOf
  rw [hold, consume, release]
  rfl

/-- The entries of a group are all its order's. -/
theorem orderReference_of_mem_positiveEntries {session : ReadSession}
    {currency : CurrencyCode} {group : GroupedRow} {entry : CreditLedgerEntry}
    (entryMem : entry ∈ session.positiveEntries currency group) :
    entry.orderReference = group.orderReference := by
  have ofType : ∀ type, entry ∈ session.positiveEntry currency group type →
      entry.orderReference = group.orderReference := by
    intro type ofType
    unfold positiveEntry at ofType
    split at ofType
    · rw [List.mem_singleton.mp ofType]
    · cases ofType
  unfold positiveEntries at entryMem
  rcases List.mem_append.mp entryMem with holdOrConsume | release
  · rcases List.mem_append.mp holdOrConsume with hold | consume
    · exact ofType _ hold
    · exact ofType _ consume
  · exact ofType _ release

/-- The entries of a group add up to its sums. -/
theorem sumOf_positiveEntries (session : ReadSession) (currency : CurrencyCode)
    {group : GroupedRow} (countable : group.Countable) (type : CreditEntryType) :
    sumOf type (session.positiveEntries currency group) = group.sum type := by
  have each : ∀ other, 0 ≤ group.sum other →
      sumOf type (session.positiveEntry currency group other) =
        if other = type then group.sum other else 0 := by
    intro other nonneg
    unfold positiveEntry
    split
    · rw [sumOf_singleton]
    · have none : group.sum other = 0 := by omega
      simp [none]
  rw [positiveEntries, sumOf_append, sumOf_append, each .hold countable.hold.1,
    each .consume countable.consume.1, each .release countable.release.1]
  cases type with
  | hold => simp
  | consume => simp
  | release => simp

end ReadSession

theorem caseSum_eq_typedSum (type : CreditEntryType) (rows : List CreditItemRow) :
    caseSum type rows = typedSum type rows := by
  induction rows with
  | nil => rfl
  | cons row rest inductionHypothesis =>
      rw [typedSum_cons, ← inductionHypothesis]
      rfl

namespace BillingDb

/-- The group of an order on a line. -/
def groupOf (db : BillingDb) (creditId : UniqueId) (order : OrderNumber) :
    GroupedRow :=
  { creditId := creditId
    orderReference := order
    sumHold := typedSum .hold (db.itemsOf creditId order)
    sumConsume := typedSum .consume (db.itemsOf creditId order)
    sumRelease := typedSum .release (db.itemsOf creditId order) }

/-- The grouped read has one row for each order on a line that is asked for, and
none for an order that is not in its ledger. -/
theorem filter_groupedRows (db : BillingDb) {creditIds : List UniqueId}
    {creditId : UniqueId} (asked : creditId ∈ creditIds) (order : OrderNumber) :
    (db.groupedRows creditIds).filter
        (fun group => group.creditId = creditId ∧ group.orderReference = order) =
      if db.itemsOf creditId order = [] then [] else [db.groupOf creditId order] := by
  have rows : (db.creditItems.filter (·.creditId ∈ creditIds)).filter
      (fun row => (row.creditId, row.orderReference) = (creditId, order)) =
        db.itemsOf creditId order := by
    rw [List.filter_filter, itemsOf]
    apply List.filter_congr
    intro row _
    by_cases ofLine : row.creditId = creditId
    · simp [ofLine, asked]
    · simp [ofLine]
  have occurs : (creditId, order) ∈
      (db.creditItems.filter (·.creditId ∈ creditIds)).map
        (fun row => (row.creditId, row.orderReference)) ↔
      db.itemsOf creditId order ≠ [] := by
    rw [← rows, Ne, List.filter_eq_nil_iff]
    simp [and_assoc]
  have ofKey := filter_groupRows (fun row => (row.creditId, row.orderReference))
    (db.creditItems.filter (·.creditId ∈ creditIds)) (creditId, order)
  rw [rows] at ofKey
  rw [groupedRows, List.filter_map,
    List.filter_congr (q := fun pair => decide (pair.1 = (creditId, order))), ofKey]
  · by_cases none : db.itemsOf creditId order = []
    · rw [if_neg (fun listed => occurs.mp listed none), if_pos none]
      rfl
    · rw [if_pos (occurs.mpr none), if_neg none]
      simp [groupOf, caseSum_eq_typedSum]
  · intro pair _
    simp [Prod.ext_iff]

/-- The groups of a line, whatever order they arrive in, have one for the order
or none. -/
theorem filter_arranged (db : BillingDb) (session : ReadSession)
    {creditIds : List UniqueId} {creditId : UniqueId}
    (asked : creditId ∈ creditIds) (order : OrderNumber) :
    ((session.arranged (db.groupedRows creditIds)).filter
        (·.creditId = creditId)).filter (·.orderReference = order) =
      if db.itemsOf creditId order = [] then []
      else [db.groupOf creditId order] := by
  have both : ((session.arranged (db.groupedRows creditIds)).filter
      (·.creditId = creditId)).filter (·.orderReference = order) =
        (session.arranged (db.groupedRows creditIds)).filter
          fun group => group.creditId = creditId ∧ group.orderReference = order := by
    rw [List.filter_filter]
    apply List.filter_congr
    intro group _
    rw [Bool.decide_and, Bool.and_comm]
  have perm := (session.arranged_perm (db.groupedRows creditIds)).filter
    fun group => group.creditId = creditId ∧ group.orderReference = order
  rw [filter_groupedRows db asked order] at perm
  rw [both]
  split at perm
  · rw [if_pos (by assumption)]
    exact perm.eq_nil
  · rw [if_neg (by assumption)]
    exact List.perm_singleton.mp perm

/-- Whatever a group arrives with, its sums are amounts. -/
theorem countable_of_mem_groupedRows {db : BillingDb} (bounded : db.Bounded)
    {creditIds : List UniqueId} {group : GroupedRow}
    (groupMem : group ∈ db.groupedRows creditIds)
    (asked : group.creditId ∈ creditIds) : group.Countable := by
  have itself : group ∈ (db.groupedRows creditIds).filter fun other =>
      other.creditId = group.creditId ∧
        other.orderReference = group.orderReference := by
    rw [List.mem_filter]
    exact ⟨groupMem, decide_eq_true ⟨rfl, rfl⟩⟩
  rw [filter_groupedRows db asked] at itself
  split at itself
  · cases itself
  · have amounts : ∀ type, 0 ≤ typedSum type
          (db.itemsOf group.creditId group.orderReference) ∧
        typedSum type (db.itemsOf group.creditId group.orderReference) ≤
          Money.maxSafeInteger := fun type =>
      ⟨typedSum_nonneg fun row rowMem =>
          bounded.nonneg row (List.mem_filter.mp rowMem).1,
        bounded.typedSum_le type _ _⟩
    rw [List.mem_singleton.mp itself]
    exact ⟨amounts .hold, amounts .consume, amounts .release⟩

/-- What a line's groups stand for has the sums of the line's ledger. -/
theorem sameSums_groups {db : BillingDb} (bounded : db.Bounded)
    (session : ReadSession) {creditIds : List UniqueId} {line : CreditRow}
    (asked : line.id ∈ creditIds) :
    SameSums
      (((session.arranged (db.groupedRows creditIds)).filter
        (·.creditId = line.id)).flatMap
          (session.positiveEntries line.currencyCode))
      (db.ledgerOf line) := by
  intro type order
  have ofLedger : sumOf type ((db.ledgerOf line).filter
      (·.orderReference = order)) = typedSum type (db.itemsOf line.id order) := by
    rw [← sumOf_toEntry type line.currencyCode, ledgerOf, List.filter_map,
      List.filter_filter, itemsOf]
    congr 2
    apply List.filter_congr
    intro row _
    simp [CreditItemRow.toEntry, and_comm]
  have ofOrder : ∀ groups : List GroupedRow,
      (groups.flatMap (session.positiveEntries line.currencyCode)).filter
          (·.orderReference = order) =
        (groups.filter (·.orderReference = order)).flatMap
          (session.positiveEntries line.currencyCode) := by
    intro groups
    induction groups with
    | nil => rfl
    | cons group rest inductionHypothesis =>
        rw [List.flatMap_cons, List.filter_append, inductionHypothesis]
        by_cases here : group.orderReference = order
        · rw [List.filter_cons_of_pos (by simpa using here), List.flatMap_cons,
            List.filter_eq_self.mpr fun entry entryMem => decide_eq_true
              ((ReadSession.orderReference_of_mem_positiveEntries entryMem).trans
                here)]
        · rw [List.filter_cons_of_neg (by simpa using here),
            List.filter_eq_nil_iff.mpr fun entry entryMem same => here
              ((ReadSession.orderReference_of_mem_positiveEntries
                entryMem).symm.trans (of_decide_eq_true same)), List.nil_append]
  rw [ofOrder, filter_arranged db session asked order, ofLedger]
  by_cases none : db.itemsOf line.id order = []
  · rw [if_pos none, none]
    rfl
  · have countable : (db.groupOf line.id order).Countable := by
      have found : db.groupOf line.id order ∈ db.groupedRows creditIds := by
        have listed := db.filter_groupedRows asked order
        rw [if_neg none] at listed
        have one : db.groupOf line.id order ∈ [db.groupOf line.id order] :=
          List.mem_singleton_self _
        rw [← listed] at one
        exact (List.mem_filter.mp one).1
      exact countable_of_mem_groupedRows bounded found asked
    rw [if_neg none, List.flatMap_singleton,
      session.sumOf_positiveEntries line.currencyCode countable]
    cases type with
    | hold | consume | release => rfl

/-! ## The three computations -/

/-- What the read model answers for a line is what the line's ledger says: its
totals are those of the raw entries, what is available is what a locked load
leaves available, and the three amounts split the limit. -/
structure ViewAgrees (db : BillingDb) (line : CreditRow) (view : CreditView) :
    Prop where
  ofLine : view.creditCode = line.code ∧ view.retailerCode = line.retailerCode ∧
    view.companyCode = line.companyCode ∧ view.currency = line.currencyCode ∧
      view.creditLimit = line.creditLimit
  activeHolds :
    view.activeHolds = (summariseLedger (db.ledgerOf line)).activeHolds
  openExposure :
    view.openExposure = (summariseLedger (db.ledgerOf line)).openExposure
  availableCredit : view.availableCredit = line.creditLimit -
    (summariseLedger (db.ledgerOf line)).committedExposure
  loaded : ∀ order, ∃ credit,
    db.lockForOrder line.retailerCode line.companyCode order = .ok credit ∧
      credit.committedExposure =
        (summariseLedger (db.ledgerOf line)).committedExposure
  nonneg : 0 ≤ view.activeHolds ∧ 0 ≤ view.openExposure ∧
    0 ≤ view.availableCredit
  split : view.activeHolds + view.openExposure + view.availableCredit =
    view.creditLimit

/-- The totals of a summary split its committed exposure. -/
theorem summariseLedger_split (entries : List CreditLedgerEntry) :
    (summariseLedger entries).activeHolds + (summariseLedger entries).openExposure =
      (summariseLedger entries).committedExposure := by
  simp only [summariseLedger, List.map_map]
  generalize (entries.map CreditLedgerEntry.orderReference).eraseDups = orders
  induction orders with
  | nil => rfl
  | cons order rest inductionHypothesis =>
      simp only [List.map_cons, List.sum_cons, Function.comp_apply, orderExposure]
        at inductionHypothesis ⊢
      omega

/-- Where no order owes its line, both totals of a summary are amounts. -/
theorem summariseLedger_nonneg {entries : List CreditLedgerEntry}
    (exposure : ∀ order, 0 ≤ (orderExposure entries order).exposure)
    (amounts : ∀ entry ∈ entries, 0 ≤ entry.amount.amount) :
    0 ≤ (summariseLedger entries).activeHolds ∧
      0 ≤ (summariseLedger entries).openExposure := by
  have consumed : ∀ order, 0 ≤ sumOf .consume
      (entries.filter (·.orderReference = order)) := by
    intro order
    apply List.sum_nonneg
    intro amount amountMem
    obtain ⟨entry, entryMem, rfl⟩ := List.mem_map.mp amountMem
    have stored := (List.mem_filter.mp (List.mem_filter.mp entryMem).1).1
    exact amounts entry stored
  constructor
  · apply List.sum_nonneg
    intro amount amountMem
    obtain ⟨line, lineMem, rfl⟩ := List.mem_map.mp amountMem
    obtain ⟨order, _, rfl⟩ := List.mem_map.mp lineMem
    exact Int.sub_nonneg_of_le (Int.min_le_right _ _)
  · apply List.sum_nonneg
    intro amount amountMem
    obtain ⟨line, lineMem, rfl⟩ := List.mem_map.mp amountMem
    obtain ⟨order, _, rfl⟩ := List.mem_map.mp lineMem
    exact Int.le_min.mpr ⟨consumed order, exposure order⟩

/-- A stored line is found by its codes. -/
theorem findCredit_of_mem {db : BillingDb}
    (keys : (db.credits.map fun row =>
      (row.retailerCode, row.companyCode)).Nodup)
    {line : CreditRow} (stored : line ∈ db.credits) :
    db.findCredit line.retailerCode line.companyCode = some line := by
  cases found : db.findCredit line.retailerCode line.companyCode with
  | none =>
      rw [findCredit, List.find?_eq_none] at found
      exact absurd (decide_eq_true ⟨rfl, rfl⟩) (found line stored)
  | some other =>
      obtain ⟨otherMem, retailer, company⟩ := findCredit_eq_some found
      rw [List.inj_on_of_nodup_map keys otherMem stored
        (Prod.ext_iff.mpr ⟨retailer, company⟩)]

/-- The view of a line on a page, whatever order its groups arrive in. -/
theorem creditView_agrees {db : BillingDb} (bounded : db.Bounded)
    (keys : (db.credits.map fun row =>
      (row.retailerCode, row.companyCode)).Nodup)
    (session : ReadSession) {creditIds : List UniqueId} {line : CreditRow}
    (stored : line ∈ db.credits) (asked : line.id ∈ creditIds) :
    ∃ view, session.creditView
        (session.arranged (db.groupedRows creditIds)) line = .ok view ∧
      ViewAgrees db line view := by
  have collected : ((session.arranged (db.groupedRows creditIds)).filter
      (·.creditId = line.id)).mapM (session.entriesOf line.currencyCode) =
        .ok (((session.arranged (db.groupedRows creditIds)).filter
          (·.creditId = line.id)).map
            (session.positiveEntries line.currencyCode)) := by
    apply mapM_eq_ok
    intro group groupMem
    obtain ⟨arranged, ofLine⟩ := List.mem_filter.mp groupMem
    have sameLine : group.creditId = line.id := of_decide_eq_true ofLine
    apply session.entriesOf_eq_ok
    exact countable_of_mem_groupedRows bounded
      ((session.arranged_perm _).mem_iff.mp arranged) (sameLine ▸ asked)
  obtain ⟨committed, activeHolds, openExposure⟩ :=
    (sameSums_groups bounded session asked).totals
  rw [List.flatMap_def] at committed activeHolds openExposure
  have scalar := db.committedExposure_ledgerOf line
  have within := bounded.within line stored
  have split := summariseLedger_split (db.ledgerOf line)
  have nonneg := @summariseLedger_nonneg (db.ledgerOf line)
    (fun order => by
      rw [orderExposure_ledgerOf]
      exact bounded.balanced.nonneg line.id order)
    (fun entry entryMem => by
      obtain ⟨row, rowMem, rfl⟩ := List.mem_map.mp entryMem
      exact bounded.nonneg row (List.mem_filter.mp rowMem).1)
  rw [ReadSession.creditView, collected]
  refine ⟨_, rfl, ⟨rfl, rfl, rfl, rfl, rfl⟩, activeHolds, openExposure,
    by rw [committed], fun order => ?_, ?_, ?_⟩
  · exact ⟨_, lockForOrder_isOk (findCredit_of_mem keys stored)
      (bounded.limits line stored) within order, scalar.symm⟩
  · refine ⟨activeHolds ▸ nonneg.1, openExposure ▸ nonneg.2, ?_⟩
    simp only [committed]
    omega
  · simp only [committed, activeHolds, openExposure]
    omega

/-- A first page that is long enough shows every stored line. -/
theorem pageOf_perm (db : BillingDb) (session : ReadSession) {pageSize : Nat}
    (fits : db.credits.length ≤ pageSize) :
    (db.pageOf session ⟨none, none, none, some pageSize⟩).Perm db.credits := by
  have all : db.listed ⟨none, none, none, some pageSize⟩ = db.credits := by
    simp [listed]
  have sorted := List.mergeSort_perm db.credits session.collates
  have taken : (db.credits.mergeSort session.collates).take pageSize =
      db.credits.mergeSort session.collates := by
    apply List.take_of_length_le
    rw [sorted.length_eq]
    exact fits
  rw [pageOf, all]
  simpa [defaultPage, taken] using sorted

/-- Every page of every ledger the operations build is answered, and the view
of each of its lines agrees with the line's ledger; one page can show them all. -/
theorem credit_views_agree {catalogue : CreditCatalogue} {db : BillingDb}
    (reached : LedgerReached catalogue db) (session : ReadSession)
    (query : CreditListRequest) :
    (∃ reply, db.list session query = .ok reply ∧
      List.Forall₂ (ViewAgrees db) (db.pageOf session query) reply.items) ∧
      ∀ pageSize, db.credits.length ≤ pageSize →
        (db.pageOf session ⟨none, none, none, some pageSize⟩).Perm db.credits := by
  refine ⟨?_, fun pageSize fits => db.pageOf_perm session fits⟩
  have bounded := bounded_of_reached reached
  have keys : (db.credits.map fun row =>
      (row.retailerCode, row.companyCode)).Nodup := by
    rw [credits_of_reached reached]
    exact catalogue.keys
  have stored : ∀ line ∈ db.pageOf session query, line ∈ db.credits := by
    intro line lineMem
    have sorted := List.mem_of_mem_drop (List.mem_of_mem_take lineMem)
    exact (List.mem_filter.mp ((List.mergeSort_perm _ _).mem_iff.mp sorted)).1
  generalize fromPage : db.pageOf session query = rows at stored ⊢
  have viewed : ∀ line ∈ rows, ∃ view, session.creditView
      (session.arranged (db.groupedRows (rows.map CreditRow.id))) line = .ok view ∧
        ViewAgrees db line view := fun line lineMem =>
    creditView_agrees bounded keys session (stored line lineMem)
      (List.mem_map_of_mem lineMem)
  obtain ⟨views, collected, agree⟩ := exists_mapM_eq_ok viewed
  simp only [list, fromPage]
  by_cases empty : rows.isEmpty
  · rw [if_pos empty, List.isEmpty_iff.mp empty]
    exact ⟨_, rfl, .nil⟩
  · rw [if_neg empty, collected]
    exact ⟨_, rfl, agree⟩

end BillingDb

namespace BillingSystem

open BillingDb

/-- A session that compares codes by their characters and takes the groups as
they come. -/
def plainSession : ReadSession where
  collates left right :=
    left.retailerCode < right.retailerCode ∨
      left.retailerCode = right.retailerCode ∧
        left.companyCode ≤ right.companyCode
  arranged := id
  arranged_perm groups := List.Perm.refl groups
  generated _ _ := ⟨0⟩

/-- Two orders on one line, of which one is paid and the other released. -/
theorem paid_views_agree :
    ∃ system,
      execute step (fun state action => decide (NonnegativeHolds state action))
        (initial thousandLimit) paidBesideReleased = some system ∧
      ∃ reply, system.db.list plainSession ⟨none, none, none, none⟩ = .ok reply ∧
        List.Forall₂ (ViewAgrees system.db)
          (system.db.pageOf plainSession ⟨none, none, none, none⟩)
          reply.items ∧
        (system.db.pageOf plainSession ⟨none, none, none, some 1⟩).Perm
          system.db.credits := by
  have runs : (execute step
      (fun state action => decide (NonnegativeHolds state action))
        (initial thousandLimit) paidBesideReleased).map
          (fun system => system.db.credits.length) = some 1 := by
    decide
  obtain ⟨system, ran, oneLine⟩ := Option.map_eq_some_iff.mp runs
  have reached := ledgerReached_of_reachable (reachable_of_execute ran)
  obtain ⟨⟨reply, answered, agree⟩, shown⟩ :=
    credit_views_agree reached plainSession ⟨none, none, none, none⟩
  exact ⟨system, ran, reply, answered, agree, shown 1 (Nat.le_of_eq oneLine)⟩

end BillingSystem

end OrderToCash.Billing
