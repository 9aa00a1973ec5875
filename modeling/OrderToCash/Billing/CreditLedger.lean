import Mathlib.Algebra.BigOperators.Group.List.Basic
import Mathlib.Data.List.Dedup
import Mathlib.Tactic.Common
import OrderToCash.Contracts.Requests

/-!
# The credit ledger and its exposures

The append-only entries of a credit line and what they leave tied up, per order
and over the line.  A consumption is in neither term of the exposure; it only
moves part of it from the active hold to the open exposure.
-/

namespace OrderToCash.Billing

open OrderToCash.Contracts
open OrderToCash.Kernel

inductive CreditEntryType
  | hold
  | consume
  | release
deriving DecidableEq, Repr

structure CreditLedgerEntry where
  id : UniqueId
  orderReference : OrderNumber
  amount : Money
  type : CreditEntryType
deriving DecidableEq, Repr

structure OrderExposure where
  orderReference : OrderNumber
  exposure : Int
  openExposure : Int
  activeHold : Int
  hasHoldEntry : Bool
deriving DecidableEq, Repr

structure LedgerSummary where
  byOrder : List OrderExposure
  committedExposure : Int
  activeHolds : Int
  openExposure : Int
deriving DecidableEq, Repr

/-- The amounts of the entries of one type. -/
def sumOf (type : CreditEntryType) (entries : List CreditLedgerEntry) : Int :=
  ((entries.filter (·.type = type)).map (·.amount.amount)).sum

/-- What an order's own entries tie up. -/
def orderExposure (entries : List CreditLedgerEntry) (order : OrderNumber) :
    OrderExposure :=
  let own := entries.filter (·.orderReference = order)
  let exposure := sumOf .hold own - sumOf .release own
  let openExposure := min (sumOf .consume own) exposure
  { orderReference := order
    exposure := exposure
    openExposure := openExposure
    activeHold := exposure - openExposure
    hasHoldEntry := own.any (·.type = .hold) }

/-- The exposures of the orders in the ledger, in the order they first appear
in, and their sums. -/
def summariseLedger (entries : List CreditLedgerEntry) : LedgerSummary :=
  let byOrder :=
    ((entries.map CreditLedgerEntry.orderReference).eraseDups).map
      (orderExposure entries)
  { byOrder := byOrder
    committedExposure := (byOrder.map OrderExposure.exposure).sum
    activeHolds := (byOrder.map OrderExposure.activeHold).sum
    openExposure := (byOrder.map OrderExposure.openExposure).sum }

/-- The order's line of a summary. -/
def LedgerSummary.exposureOf? (summary : LedgerSummary) (order : OrderNumber) :
    Option OrderExposure :=
  summary.byOrder.find? (·.orderReference = order)

/-- What an order's line says of it, or zero where it has no line. -/
def LedgerSummary.amountOf (summary : LedgerSummary) (order : OrderNumber)
    (field : OrderExposure → Int) : Int :=
  ((summary.exposureOf? order).map field).getD 0

/-! ## What the summary says of an order -/

@[simp]
theorem sumOf_nil (type : CreditEntryType) : sumOf type [] = 0 := rfl

@[simp]
theorem sumOf_append (type : CreditEntryType)
    (first second : List CreditLedgerEntry) :
    sumOf type (first ++ second) = sumOf type first + sumOf type second := by
  simp [sumOf]

theorem sumOf_singleton (type : CreditEntryType) (entry : CreditLedgerEntry) :
    sumOf type [entry] = if entry.type = type then entry.amount.amount else 0 := by
  by_cases same : entry.type = type
  · simp [sumOf, same]
  · simp [sumOf, same]

/-- A line is found among the lines of the orders listed. -/
theorem find?_map_orderExposure {entries : List CreditLedgerEntry}
    {order : OrderNumber} {orders : List OrderNumber} (listed : order ∈ orders) :
    (orders.map (orderExposure entries)).find? (·.orderReference = order) =
      some (orderExposure entries order) := by
  induction orders with
  | nil => cases listed
  | cons first rest inductionHypothesis =>
      by_cases here : first = order
      · subst here
        simp [orderExposure]
      · have later := (List.mem_cons.mp listed).resolve_left (Ne.symm here)
        rw [List.map_cons,
          List.find?_cons_of_neg (by simpa [orderExposure] using here)]
        exact inductionHypothesis later

theorem exposureOf?_summariseLedger {entries : List CreditLedgerEntry}
    {order : OrderNumber}
    (listed : order ∈ entries.map CreditLedgerEntry.orderReference) :
    (summariseLedger entries).exposureOf? order =
      some (orderExposure entries order) :=
  find?_map_orderExposure (List.mem_eraseDups.mpr listed)

theorem exposureOf?_summariseLedger_of_not_mem
    {entries : List CreditLedgerEntry} {order : OrderNumber}
    (unlisted : order ∉ entries.map CreditLedgerEntry.orderReference) :
    (summariseLedger entries).exposureOf? order = none := by
  simp only [LedgerSummary.exposureOf?, summariseLedger, List.find?_eq_none]
  intro line lineMem
  obtain ⟨first, firstMem, rfl⟩ := List.mem_map.mp lineMem
  have differs : first ≠ order := by
    rintro rfl
    exact unlisted (List.mem_eraseDups.mp firstMem)
  simpa [orderExposure] using differs

/-- An order without entries ties up nothing. -/
theorem filter_eq_nil_of_not_mem {entries : List CreditLedgerEntry}
    {order : OrderNumber}
    (unlisted : order ∉ entries.map CreditLedgerEntry.orderReference) :
    entries.filter (·.orderReference = order) = [] := by
  rw [List.filter_eq_nil_iff]
  intro entry entryMem same
  exact unlisted (List.mem_map.mpr ⟨entry, entryMem, of_decide_eq_true same⟩)

/-- The summary's exposure of an order is that of its own entries. -/
theorem amountOf_exposure (entries : List CreditLedgerEntry)
    (order : OrderNumber) :
    (summariseLedger entries).amountOf order OrderExposure.exposure =
      (orderExposure entries order).exposure := by
  unfold LedgerSummary.amountOf
  by_cases listed : order ∈ entries.map CreditLedgerEntry.orderReference
  · rw [exposureOf?_summariseLedger listed]
    rfl
  · rw [exposureOf?_summariseLedger_of_not_mem listed]
    simp [orderExposure, filter_eq_nil_of_not_mem listed]

/-- The summary's active hold of an order is that of its own entries. -/
theorem amountOf_activeHold (entries : List CreditLedgerEntry)
    (order : OrderNumber) :
    (summariseLedger entries).amountOf order OrderExposure.activeHold =
      (orderExposure entries order).activeHold := by
  unfold LedgerSummary.amountOf
  by_cases listed : order ∈ entries.map CreditLedgerEntry.orderReference
  · rw [exposureOf?_summariseLedger listed]
    rfl
  · rw [exposureOf?_summariseLedger_of_not_mem listed]
    simp [orderExposure, filter_eq_nil_of_not_mem listed]

/-- The exposure of an order depends on nothing but its own entries. -/
theorem orderExposure_filter (entries : List CreditLedgerEntry)
    (order : OrderNumber) :
    orderExposure (entries.filter (·.orderReference = order)) order =
      orderExposure entries order := by
  simp [orderExposure, List.filter_filter]

end OrderToCash.Billing
