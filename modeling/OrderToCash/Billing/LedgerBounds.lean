import OrderToCash.Billing.LineBalance

/-!
# The ledgers the three operations build

Whatever holds, consumptions and releases of any orders are saved one after
another, the amounts of a ledger stay within bounds: none is negative, no order
is invoiced or released for more than it held, and no sum of an order leaves
the integers the code can count with.
-/

namespace OrderToCash.Billing

open OrderToCash.Checked
open OrderToCash.Contracts
open OrderToCash.Kernel
open OrderToCash.Transition

/-- An amount that a request may hold: a `Money` that is not negative. -/
def Holdable (amount : Int) : Prop :=
  0 ≤ amount ∧ amount ≤ Money.maxSafeInteger

/-- The databases that saved operations lead to, one line and one order at a
time, from credit lines with an empty ledger. -/
inductive LedgerReached (catalogue : CreditCatalogue) : BillingDb → Prop
  | seeded : LedgerReached catalogue (BillingSystem.initial catalogue).db
  | posted {db db' : BillingDb} {line : CreditRow} {order : OrderNumber}
      {credit : BuyerCredit} (reached : LedgerReached catalogue db)
      (posted : db.Posted db' line order credit)
      (held : ∀ entry ∈ credit.appended, entry.type = .hold →
        Holdable entry.amount.amount) :
      LedgerReached catalogue db'

/-! ## What one operation appends -/

namespace BillingDb

/-- What the amount of an appended entry is, or is bounded by. -/
def EntryFits (db : BillingDb) (line : CreditRow) (order : OrderNumber)
    (entry : CreditLedgerEntry) : Prop :=
  match entry.type with
  | .hold =>
      entry.amount.amount ≤ line.creditLimit - db.committedExposure line.id
  | .consume =>
      entry.amount.amount = activeHoldOfRows (db.itemsOf line.id order) ∧
        0 < entry.amount.amount
  | .release =>
      entry.amount.amount = exposureOfRows (db.itemsOf line.id order) ∧
        0 < entry.amount.amount

/-- A hold that is approved fits the credit that is available. -/
theorem fits_of_evaluateHold {db : BillingDb} {line : CreditRow}
    {request : HoldRequest}
    (fits : (db.toBuyerCreditSnapshot line request.orderReference).evaluateHold
      request = .fits) :
    request.amount.amount ≤ line.creditLimit - db.committedExposure line.id := by
  rw [evaluateHold_snapshot] at fits
  split at fits
  · cases fits
  · split at fits
    · cases fits
    · split at fits
      · cases fits
      · rename_i within
        exact Int.not_lt.mp within

/-- An operation appends at most one entry, of its own order. -/
theorem appended_of_operated {db : BillingDb} {line : CreditRow}
    {order : OrderNumber} {credit : BuyerCredit}
    (operated : (db.toBuyerCreditSnapshot line order).Operated order credit) :
    credit.appended = [] ∨ ∃ entry, credit.appended = [entry] ∧
      entry.orderReference = order ∧ db.EntryFits line order entry := by
  cases operated with
  | untouched => exact Or.inl rfl
  | approved request newId credit ofOrder result =>
      subst ofOrder
      unfold BuyerCredit.approveHold at result
      split at result
      · rename_i evaluates
        cases result
        exact Or.inr ⟨_, rfl, rfl, fits_of_evaluateHold evaluates⟩
      · cases result
  | refused request reason credit ofOrder result =>
      simp only [BuyerCredit.refuseHold, ite_error_eq_ok_iff, Except.ok.injEq]
        at result
      obtain ⟨_, rfl⟩ := result
      exact Or.inl rfl
  | consumed newId credit result =>
      simp only [BuyerCredit.consumeHold, BuyerCredit.activeHold_snapshot,
        ite_error_eq_ok_iff, Except.ok.injEq] at result
      obtain ⟨active, rfl⟩ := result
      exact Or.inr ⟨_, rfl, rfl, rfl, Int.not_le.mp active⟩
  | released reason newId credit entry result =>
      simp only [BuyerCredit.releaseHold, BuyerCredit.outstanding_snapshot,
        ite_error_eq_ok_iff] at result
      obtain ⟨notNegative, result⟩ := result
      split at result
      · cases result
      · rename_i some
        cases result
        have outstanding : 0 < exposureOfRows (db.itemsOf line.id order) := by
          omega
        exact Or.inr ⟨_, rfl, rfl, rfl, outstanding⟩

/-! ## The bounds -/

/-- The bounds of a ledger. -/
structure Bounded (db : BillingDb) : Prop where
  lineIds : (db.credits.map CreditRow.id).Nodup
  limits : ∀ line ∈ db.credits, 0 ≤ line.creditLimit
  balanced : db.Balanced
  within : ∀ line ∈ db.credits, db.committedExposure line.id ≤ line.creditLimit
  nonneg : ∀ row ∈ db.creditItems, 0 ≤ row.amount
  safe : ∀ row ∈ db.creditItems, row.type = .hold →
    row.amount ≤ Money.maxSafeInteger
  consumed : ∀ creditId order,
    typedSum .consume (db.itemsOf creditId order) ≤
      typedSum .hold (db.itemsOf creditId order)

theorem typedSum_nonneg {type : CreditEntryType} {rows : List CreditItemRow}
    (nonneg : ∀ row ∈ rows, 0 ≤ row.amount) : 0 ≤ typedSum type rows := by
  induction rows with
  | nil => exact Int.le_refl 0
  | cons row rest inductionHypothesis =>
      have first := nonneg row List.mem_cons_self
      have others := inductionHypothesis fun other otherMem =>
        nonneg other (List.mem_cons_of_mem row otherMem)
      rw [typedSum_cons]
      split <;> omega

/-- One entry of a type at most adds up to no more than one amount. -/
theorem typedSum_le_of_countP {type : CreditEntryType}
    {rows : List CreditItemRow} {bound : Int} (positive : 0 ≤ bound)
    (one : rows.countP (·.type = type) ≤ 1)
    (bounded : ∀ row ∈ rows, row.type = type → row.amount ≤ bound) :
    typedSum type rows ≤ bound := by
  rw [List.countP_eq_length_filter] at one
  have selected : ∀ row ∈ rows.filter (·.type = type), row.amount ≤ bound := by
    intro row rowMem
    obtain ⟨stored, ofType⟩ := List.mem_filter.mp rowMem
    exact bounded row stored (of_decide_eq_true ofType)
  unfold typedSum
  generalize rows.filter (·.type = type) = matching at one selected
  match matching with
  | [] => exact positive
  | [row] => simpa using selected row (List.mem_singleton_self row)
  | first :: second :: rest => simp at one

theorem typedSum_append (type : CreditEntryType)
    (first second : List CreditItemRow) :
    typedSum type (first ++ second) =
      typedSum type first + typedSum type second := by
  simp [typedSum]

theorem typedSum_entry (type : CreditEntryType) (creditId : UniqueId)
    (entry : CreditLedgerEntry) :
    typedSum type [toCreditItemRow creditId entry] =
      if entry.type = type then entry.amount.amount else 0 := by
  rw [typedSum_cons]
  exact Int.add_zero _

theorem bounded_seeded (catalogue : CreditCatalogue) :
    (BillingSystem.initial catalogue).db.Bounded where
  lineIds := catalogue.ids
  limits := catalogue.limits
  balanced := (BillingSystem.linesKept_initial catalogue).balanced
  within := (BillingSystem.linesKept_initial catalogue).sound.within
  nonneg := List.forall_mem_nil _
  safe := List.forall_mem_nil _
  consumed := fun _ _ => Int.le_refl 0

/-- An order is consumed for what it has left to consume. -/
theorem consumed_entry {db : BillingDb} (bounded : db.Bounded)
    {line : CreditRow} {order : OrderNumber} {entry : CreditLedgerEntry}
    (fits : db.EntryFits line order entry) (nonneg : 0 ≤ entry.amount.amount) :
    typedSum .consume (db.itemsOf line.id order) +
        typedSum .consume [toCreditItemRow line.id entry] ≤
      typedSum .hold (db.itemsOf line.id order) +
        typedSum .hold [toCreditItemRow line.id entry] := by
  have before := bounded.consumed line.id order
  have releases : 0 ≤ typedSum .release (db.itemsOf line.id order) :=
    typedSum_nonneg fun row rowMem =>
      bounded.nonneg row (List.mem_filter.mp rowMem).1
  rw [typedSum_entry, typedSum_entry]
  unfold EntryFits at fits
  split at fits
  · rename_i ofType
    simp only [ofType, reduceCtorEq, if_true, if_false]
    omega
  · rename_i ofType
    simp only [ofType, reduceCtorEq, if_true, if_false]
    have active := fits.1
    rw [activeHoldOfRows, exposureOfRows_eq] at active
    omega
  · rename_i ofType
    simp only [ofType, reduceCtorEq, if_false]
    omega

/-- No appended entry is negative. -/
theorem entry_nonneg {db : BillingDb} {line : CreditRow} {order : OrderNumber}
    {entry : CreditLedgerEntry} (fits : db.EntryFits line order entry)
    (held : entry.type = .hold → Holdable entry.amount.amount) :
    0 ≤ entry.amount.amount := by
  unfold EntryFits at fits
  split at fits
  · rename_i isHold
    exact (held isHold).1
  · exact Int.le_of_lt fits.2
  · exact Int.le_of_lt fits.2

/-- An entry that fits leaves its line within its limit. -/
theorem entry_within {db : BillingDb} (bounded : db.Bounded) {line : CreditRow}
    {order : OrderNumber} {entry : CreditLedgerEntry}
    (stored : line ∈ db.credits) (fits : db.EntryFits line order entry) :
    db.committedExposure line.id +
        exposureOfRow (toCreditItemRow line.id entry) ≤ line.creditLimit := by
  have before := bounded.within line stored
  unfold EntryFits at fits
  simp only [exposureOfRow, toCreditItemRow]
  split at fits
  · rename_i ofType
    simp only [ofType]
    omega
  · rename_i ofType
    simp only [ofType]
    omega
  · rename_i ofType
    simp only [ofType]
    omega

/-- One saved operation keeps the bounds. -/
theorem Bounded.posted {db db' : BillingDb} (bounded : db.Bounded)
    {line : CreditRow} {order : OrderNumber} {credit : BuyerCredit}
    (posted : db.Posted db' line order credit)
    (held : ∀ entry ∈ credit.appended, entry.type = .hold →
      Holdable entry.amount.amount) : db'.Bounded := by
  have ledger := posted.creditItems_eq
  have items := posted.itemsOf_eq
  have appended := appended_of_operated posted.operated
  have newRow : ∀ row ∈ db'.creditItems, row ∈ db.creditItems ∨
      ∃ entry ∈ credit.appended, row = toCreditItemRow line.id entry ∧
        db.EntryFits line order entry := by
    intro row rowMem
    rw [ledger] at rowMem
    rcases List.mem_append.mp rowMem with old | new
    · exact Or.inl old
    · obtain ⟨entry, entryMem, rfl⟩ := List.mem_map.mp new
      rcases appended with none | ⟨only, isOnly, _, fits⟩
      · rw [none] at entryMem
        cases entryMem
      · have same : entry = only := List.mem_singleton.mp (isOnly ▸ entryMem)
        exact Or.inr ⟨entry, entryMem, rfl, same ▸ fits⟩
  have nonneg : ∀ row ∈ db'.creditItems, 0 ≤ row.amount := by
    intro row rowMem
    rcases newRow row rowMem with old | ⟨entry, entryMem, rfl, fits⟩
    · exact bounded.nonneg row old
    · exact entry_nonneg fits (held entry entryMem)
  constructor
  · rw [posted.sameLines]
    exact bounded.lineIds
  · rw [posted.sameLines]
    exact bounded.limits
  · exact bounded.balanced.posted posted fun row rowMem _ => nonneg row rowMem
  · intro other otherMem
    rw [posted.sameLines] at otherMem
    have before := bounded.within other otherMem
    have after : db'.committedExposure other.id = db.committedExposure other.id +
        exposureOfRows ((credit.appended.map (toCreditItemRow line.id)).filter
          (·.creditId = other.id)) := by
      simp [committedExposure, ledger, exposureOfRows]
    rw [after]
    rcases appended with none | ⟨entry, isOnly, _, fits⟩
    · simpa [none, exposureOfRows] using before
    · rw [isOnly]
      by_cases same : line.id = other.id
      · cases List.inj_on_of_nodup_map bounded.lineIds posted.stored otherMem same
        simpa [toCreditItemRow, exposureOfRows] using
          entry_within bounded posted.stored fits
      · simpa [toCreditItemRow, exposureOfRows, same] using before
  · exact nonneg
  · intro row rowMem isHold
    rcases newRow row rowMem with old | ⟨entry, entryMem, rfl, _⟩
    · exact bounded.safe row old isHold
    · exact (held entry entryMem isHold).2
  · intro creditId other
    have before := bounded.consumed creditId other
    rw [items, typedSum_append, typedSum_append]
    rcases appended with none | ⟨entry, isOnly, ofOrder, fits⟩
    · simpa [none, typedSum] using before
    · rw [isOnly, List.map_singleton, filter_row rfl ofOrder]
      split
      · rename_i same
        obtain ⟨rfl, rfl⟩ := same
        have entryMem : entry ∈ credit.appended := isOnly ▸ List.mem_cons_self
        exact consumed_entry bounded fits (entry_nonneg fits (held entry entryMem))
      · simpa [typedSum] using before

theorem bounded_of_reached {catalogue : CreditCatalogue} {db : BillingDb}
    (reached : LedgerReached catalogue db) : db.Bounded := by
  induction reached with
  | seeded => exact bounded_seeded catalogue
  | posted _ posted held bounded => exact bounded.posted posted held

/-- The credit lines are the seeded ones. -/
theorem credits_of_reached {catalogue : CreditCatalogue} {db : BillingDb}
    (reached : LedgerReached catalogue db) : db.credits = catalogue.rows := by
  induction reached with
  | seeded => rfl
  | posted _ posted _ same => rw [posted.sameLines, same]

/-- No sum of an order's amounts leaves the safe integers. -/
theorem Bounded.typedSum_le {db : BillingDb} (bounded : db.Bounded)
    (type : CreditEntryType) (creditId : UniqueId) (order : OrderNumber) :
    typedSum type (db.itemsOf creditId order) ≤ Money.maxSafeInteger := by
  have holds : typedSum .hold (db.itemsOf creditId order) ≤
      Money.maxSafeInteger :=
    typedSum_le_of_countP (Int.natCast_nonneg _)
      (bounded.balanced.oneHold creditId order)
      fun row rowMem => bounded.safe row (List.mem_filter.mp rowMem).1
  cases type with
  | hold => exact holds
  | consume => exact Int.le_trans (bounded.consumed creditId order) holds
  | release =>
      have left := bounded.balanced.nonneg creditId order
      rw [exposureOfRows_eq] at left
      omega

end BillingDb

/-! ## The service's ledgers -/

namespace BillingSystem

open BillingDb

/-- A hold is of a safe integer, or it is refused before anything is read. -/
theorem safe_of_hold {db : BillingDb} {request : CreditHoldRequest} {drawn : Bool}
    {result : BillingDb × BillingReply}
    (held : db.hold request drawn = .ok result) :
    request.amount.amount.natAbs ≤ Money.maxSafeInteger := by
  unfold hold at held
  obtain ⟨amount, isMoney, _⟩ := bind_eq_ok_iff.mp held
  rw [mapError_eq_ok_iff] at isMoney
  unfold Money.of at isMoney
  split at isMoney
  · rename_i safe
    exact safe
  · cases isMoney

/-- Whatever the service commits is one saved operation more. -/
theorem ledgerReached_step {catalogue : CreditCatalogue}
    {system system' : BillingSystem} {action : BillingAction}
    (kept : system.LinesKept) (reached : LedgerReached catalogue system.db)
    (stepped : step system action = some system') :
    LedgerReached catalogue system'.db := by
  cases step_change stepped with
  | received | alreadyInvoiced | alreadyRecorded | unknownInvoice | resolved
  | refused | aborted => exact reached
  | committed index drawn call db reply found result =>
      obtain ⟨line, order, credit, posted⟩ := posted_transaction result
      obtain ⟨rows, ledger, newRows⟩ := newRows_transaction result
      rw [posted.creditItems_eq] at ledger
      have appended := List.append_cancel_left ledger
      apply LedgerReached.posted reached posted
      intro entry entryMem isHold
      have rowMem : toCreditItemRow line.id entry ∈ rows := by
        rw [← appended]
        exact List.mem_map_of_mem entryMem
      obtain ⟨request, rfl, amount⟩ := (newRows _ rowMem).1 isHold
      have nonneg : 0 ≤ request.amount.amount :=
        kept.calls _ (List.mem_of_getElem? found)
      have safe := safe_of_hold (Option.some.inj result)
      change entry.amount.amount = request.amount.amount at amount
      rw [amount]
      exact ⟨nonneg, by omega⟩

/-- Every ledger the service reaches is one the operations build. -/
theorem ledgerReached_of_reachable {catalogue : CreditCatalogue}
    {system : BillingSystem}
    (reached : Reachable step NonnegativeHolds (initial catalogue) system) :
    LedgerReached catalogue system.db := by
  have kept : ∀ {system}, Reachable step NonnegativeHolds (initial catalogue)
      system → system.LinesKept := fun path =>
    path.invariant (linesKept_initial catalogue)
      fun _ _ _ kept nonneg stepped => linesKept_step kept nonneg stepped
  induction reached with
  | refl => exact .seeded
  | tail path _ stepped inductionHypothesis =>
      exact ledgerReached_step (kept path) inductionHypothesis stepped

end BillingSystem

end OrderToCash.Billing
