import OrderToCash.Billing.CreditPhase

/-!
# An order's account

Holds, releases, invoicings and payments of one order, received in any number
and interleaved in any way with those of other orders: as long as every hold of
the order carries its one request, the order keeps to the phases of its credit.
-/

namespace OrderToCash.Billing

open OrderToCash.Contracts
open OrderToCash.Kernel
open OrderToCash.Transition

namespace BillingDb

/-! ## What a transaction appends -/

/-- What one transaction adds to the tables, as far as an order's account needs
to know: where the order's new ledger rows are, and whom its invoices name. -/
structure Grown (db db' : BillingDb) (hold : CreditHoldRequest) : Prop where
  credits : db'.credits = db.credits
  onLine : db'.OnLine hold.orderReference hold.retailerCode hold.companyCode
  invoicedTo :
    db'.InvoicedTo hold.orderReference hold.retailerCode hold.companyCode
  invoices : ∀ invoice ∈ db.invoices, ∃ stored ∈ db'.invoices,
    stored.id = invoice.id ∧ stored.orderReference = invoice.orderReference ∧
      stored.retailerCode = invoice.retailerCode ∧
        stored.companyCode = invoice.companyCode

/-- A database grown by nothing the account looks at. -/
theorem Grown.refl {db : BillingDb} {hold : CreditHoldRequest}
    (onLine : db.OnLine hold.orderReference hold.retailerCode hold.companyCode)
    (invoicedTo :
      db.InvoicedTo hold.orderReference hold.retailerCode hold.companyCode) :
    db.Grown db hold where
  credits := rfl
  onLine := onLine
  invoicedTo := invoicedTo
  invoices := fun invoice stored => ⟨invoice, stored, rfl, rfl, rfl, rfl⟩

/-- Ledger rows of the order on its line, on top of rows that were. -/
theorem OnLine.append {db : BillingDb} (db' : BillingDb) {order : OrderNumber}
    {retailerCode companyCode : String} {rows : List CreditItemRow}
    (onLine : db.OnLine order retailerCode companyCode)
    (credits : db'.credits = db.credits)
    (items : db'.creditItems = db.creditItems ++ rows)
    (placed : ∀ row ∈ rows, row.orderReference = order →
      ∃ line, db.findCredit retailerCode companyCode = some line ∧
        row.creditId = line.id) :
    db'.OnLine order retailerCode companyCode := by
  have sameCredit : db'.findCredit retailerCode companyCode =
      db.findCredit retailerCode companyCode := by
    rw [findCredit, findCredit, credits]
  intro row rowMem
  rw [sameCredit]
  obtain ⟨stored, ofOrder⟩ := List.mem_filter.mp rowMem
  rw [items] at stored
  rcases List.mem_append.mp stored with old | new
  · exact onLine row (List.mem_filter.mpr ⟨old, ofOrder⟩)
  · exact placed row new (of_decide_eq_true ofOrder)

/-- A line the order has ledger rows on is the line of its codes. -/
theorem findCredit_of_itemsOf {db : BillingDb} {order : OrderNumber}
    {retailerCode companyCode : String} (sound : db.Sound)
    (onLine : db.OnLine order retailerCode companyCode) {line : CreditRow}
    (lineMem : line ∈ db.credits) (something : db.itemsOf line.id order ≠ []) :
    db.findCredit retailerCode companyCode = some line := by
  obtain ⟨row, rowMem⟩ := List.exists_mem_of_ne_nil _ something
  obtain ⟨ofLine, ofOrder⟩ := orderReference_of_mem_itemsOf rowMem
  obtain ⟨other, found, same⟩ := onLine row
    (List.mem_filter.mpr ⟨(List.mem_filter.mp rowMem).1, decide_eq_true ofOrder⟩)
  cases List.inj_on_of_nodup_map sound.lineIds lineMem
    (findCredit_eq_some found).1 (ofLine.symm.trans same)
  exact found

/-- The release of an order's exposure is on the line of its codes. -/
theorem ReleaseEffect.placed {db : BillingDb} (sound : db.Sound)
    {order released : OrderNumber} {retailerCode companyCode : String}
    (onLine : db.OnLine order retailerCode companyCode) {line : CreditRow}
    (lineMem : line ∈ db.credits) {reason : CreditReleaseReason}
    {rows : List CreditItemRow} {facts : List Fact}
    (effect : db.ReleaseEffect released line reason rows facts) :
    ∀ row ∈ rows, row.orderReference = order →
      ∃ line, db.findCredit retailerCode companyCode = some line ∧
        row.creditId = line.id := by
  intro row rowMem ofOrder
  cases effect with
  | nothing => cases rowMem
  | released payload some =>
      rw [List.mem_singleton.mp rowMem] at ofOrder ⊢
      have same : released = order := ofOrder
      subst same
      have something : db.itemsOf line.id released ≠ [] := by
        intro none
        rw [none] at some
        exact absurd some (by decide)
      exact ⟨line, findCredit_of_itemsOf sound onLine lineMem something, rfl⟩

/-- Marking an invoice paid keeps whom it names. -/
theorem invoices_afterPayment (db : BillingDb) (invoiceId : UniqueId)
    (payment : PaymentRow) (rows : List CreditItemRow) (facts : List Fact) :
    ∀ invoice ∈ db.invoices, ∃ stored ∈
      (db.afterPayment invoiceId payment rows facts).invoices,
      stored.id = invoice.id ∧ stored.orderReference = invoice.orderReference ∧
        stored.retailerCode = invoice.retailerCode ∧
          stored.companyCode = invoice.companyCode := by
  intro invoice stored
  refine ⟨_, List.mem_map_of_mem stored, ?_⟩
  split
  · exact ⟨rfl, rfl, rfl, rfl⟩
  · exact ⟨rfl, rfl, rfl, rfl⟩

end BillingDb

namespace BillingSystem

open BillingDb

theorem grown_transaction {db db' : BillingDb} {drawn : Bool}
    {call : BillingCall} {reply : BillingReply} {hold : CreditHoldRequest}
    (sound : db.Sound)
    (onLine : db.OnLine hold.orderReference hold.retailerCode hold.companyCode)
    (invoicedTo :
      db.InvoicedTo hold.orderReference hold.retailerCode hold.companyCode)
    (ready : call.Ready db hold)
    (result : transaction db drawn call = some (.ok (db', reply))) :
    db.Grown db' hold := by
  cases call with
  | creditHold request =>
      obtain ⟨line, found, effect⟩ := hold_effect (Option.some.inj result)
      cases effect with
      | repeated held => exact .refl onLine invoicedTo
      | refused payload first payloadOf =>
          exact
            { credits := rfl
              onLine := onLine.append _ rfl rfl (List.forall_mem_nil _)
              invoicedTo := invoicedTo
              invoices := fun invoice stored =>
                ⟨invoice, stored, rfl, rfl, rfl, rfl⟩ }
      | approved payload first fits payloadOf heldAmount available =>
          refine
            { credits := rfl
              onLine := onLine.append _ rfl rfl ?_
              invoicedTo := invoicedTo
              invoices := fun invoice stored =>
                ⟨invoice, stored, rfl, rfl, rfl, rfl⟩ }
          intro row rowMem ofOrder
          rw [List.mem_singleton.mp rowMem] at ofOrder ⊢
          have sameRequest := ready ofOrder
          subst sameRequest
          exact ⟨line, found, rfl⟩
  | creditRelease request =>
      obtain ⟨line, rows, facts, count, found, effect, rfl⟩ :=
        releaseCredit_effect (Option.some.inj result)
      exact
        { credits := rfl
          onLine := onLine.append _ rfl rfl
            (effect.placed sound onLine (findCredit_eq_some found).1)
          invoicedTo := invoicedTo
          invoices := fun invoice stored =>
            ⟨invoice, stored, rfl, rfl, rfl, rfl⟩ }
  | invoiceIssue request =>
      obtain ⟨line, found, effect⟩ := issueInvoice_effect (Option.some.inj result)
      cases effect with
      | repeated existing existingFound => exact .refl onLine invoicedTo
      | issued invoice payload first held identifier reference ofOrder ofLine =>
          have lineMem := (findCredit_eq_some found).1
          have located : invoice.orderReference = hold.orderReference →
              db.findCredit hold.retailerCode hold.companyCode = some line := by
            intro same
            apply findCredit_of_itemsOf sound onLine lineMem
            rw [← same, ofOrder]
            intro none
            rw [none] at held
            exact absurd held (by decide)
          constructor
          · rfl
          · refine onLine.append (db.afterIssue invoice line payload) rfl rfl
              fun row rowMem rowOf => ?_
            rw [List.mem_singleton.mp rowMem] at rowOf ⊢
            exact ⟨line, located rowOf, rfl⟩
          · intro other otherMem
            obtain ⟨stored, otherOf⟩ := List.mem_filter.mp otherMem
            rcases List.mem_append.mp stored with old | new
            · exact invoicedTo other (List.mem_filter.mpr ⟨old, otherOf⟩)
            · rw [List.mem_singleton.mp new] at otherOf ⊢
              have named := findCredit_eq_some (located (of_decide_eq_true otherOf))
              have requested := findCredit_eq_some found
              rw [ofLine.1, ofLine.2, ← requested.2.1, ← requested.2.2]
              exact named.2
          · intro other stored
            exact ⟨other, List.mem_append_left _ stored, rfl, rfl, rfl, rfl⟩
  | paymentLooked request => cases result
  | paymentRegister request snapshot =>
      obtain ⟨line, foundLine, effect⟩ :=
        registerPayment_effect (Option.some.inj result)
      cases effect with
      | repeated locked found paid => exact .refl onLine invoicedTo
      | paid locked payment payload rows facts found unpaid first reference
          ofInvoice payloadOf total release =>
          constructor
          · rfl
          · exact onLine.append
              (db.afterPayment locked.id payment rows
                (.paymentReceived payload :: facts)) rfl rfl
              (release.placed sound onLine (findCredit_eq_some foundLine).1)
          · intro other otherMem
            rw [invoicesOf_afterPayment] at otherMem
            obtain ⟨before, beforeMem, rfl⟩ := List.mem_map.mp otherMem
            have named := invoicedTo before beforeMem
            split
            · exact named
            · exact named
          · exact invoices_afterPayment db locked.id payment rows _

/-! ## The invariant of the service -/

/-- The hold request an action receives. -/
def receivedHold? : BillingAction → Option CreditHoldRequest
  | .receive (.creditHold request) => some request
  | _ => none

/-- All hold requests of the order are its one request. -/
def SameHoldRequest (hold : CreditHoldRequest) :
    Guard BillingSystem BillingAction :=
  fun _ action => ∀ request ∈ receivedHold? action,
    request.orderReference = hold.orderReference → request = hold

instance (hold : CreditHoldRequest) (system : BillingSystem)
    (action : BillingAction) :
    Decidable (SameHoldRequest hold system action) :=
  inferInstanceAs (Decidable (∀ request ∈ receivedHold? action, _ → _))

/-- The order is in a phase of its credit, and every call under way agrees with
the database. -/
structure Accounted (hold : CreditHoldRequest) (system : BillingSystem) :
    Prop where
  sound : system.db.Sound
  onLine :
    system.db.OnLine hold.orderReference hold.retailerCode hold.companyCode
  invoicedTo :
    system.db.InvoicedTo hold.orderReference hold.retailerCode hold.companyCode
  consistent :
    (system.db.orderCredit hold.orderReference).Consistent hold.amount.amount
  ready : ∀ call ∈ system.calls, call.Ready system.db hold

theorem accounted_initial (catalogue : CreditCatalogue)
    (hold : CreditHoldRequest) : (initial catalogue).Accounted hold where
  sound := sound_initial catalogue
  onLine := by
    intro row rowMem
    cases rowMem
  invoicedTo := by
    intro invoice invoiceMem
    cases invoiceMem
  consistent := ⟨.unheld, rfl, fun notUnheld => absurd rfl notUnheld⟩
  ready := by
    intro call callMem
    cases callMem

/-- What a transaction that commits does to the order. -/
theorem orderCredit_transaction {system : BillingSystem} {drawn : Bool}
    {call : BillingCall} {db : BillingDb} {reply : BillingReply}
    {hold : CreditHoldRequest} (accounted : system.Accounted hold)
    (callMem : call ∈ system.calls)
    (result : transaction system.db drawn call = some (.ok (db, reply))) :
    (call.order? ≠ some hold.orderReference ∧
        db.orderCredit hold.orderReference =
          system.db.orderCredit hold.orderReference) ∨
      (call.order? = some hold.orderReference ∧
        (system.db.orderCredit hold.orderReference).Move call
          (db.orderCredit hold.orderReference)) := by
  have ready := accounted.ready call callMem
  by_cases ofOrder : call.order? = some hold.orderReference
  · exact Or.inr ⟨ofOrder, move_of_order accounted.sound accounted.onLine
      accounted.invoicedTo ready result ofOrder⟩
  · refine Or.inl ⟨ofOrder,
      orderCredit_of_other accounted.sound ?_ result ofOrder⟩
    rintro request snapshot rfl locked found
    exact (stored_of_ready accounted.sound ready found).2.1

/-- What a call carries stays true while the invoices stay stored. -/
theorem ready_of_grown {db db' : BillingDb} {hold : CreditHoldRequest}
    {call : BillingCall} (grown : db.Grown db' hold) (ready : call.Ready db hold) :
    call.Ready db' hold := by
  cases call with
  | creditHold | creditRelease | invoiceIssue | paymentLooked => exact ready
  | paymentRegister request snapshot =>
      obtain ⟨stored, storedMem, sameId, sameOrder, sameRetailer, sameCompany⟩ :=
        ready
      obtain ⟨later, laterMem, laterId, laterOrder, laterRetailer, laterCompany⟩ :=
        grown.invoices stored storedMem
      exact ⟨later, laterMem, laterId.trans sameId, laterOrder.trans sameOrder,
        laterRetailer.trans sameRetailer, laterCompany.trans sameCompany⟩

/-- A hold that runs for the order holds the order's amount. -/
theorem amount_of_ready {db : BillingDb} {hold : CreditHoldRequest}
    {call : BillingCall} (ready : call.Ready db hold)
    (ofOrder : call.order? = some hold.orderReference) :
    ∀ request, call = .creditHold request →
      request.amount.amount = hold.amount.amount := by
  rintro request rfl
  rw [ready (Option.some.inj ofOrder)]

theorem Accounted.commit {system : BillingSystem} {drawn : Bool}
    {call : BillingCall} {db : BillingDb} {reply : BillingReply}
    {hold : CreditHoldRequest} (accounted : system.Accounted hold)
    (callMem : call ∈ system.calls)
    (result : transaction system.db drawn call = some (.ok (db, reply)))
    {calls : List BillingCall} (answers : List BillingAnswer)
    (remaining : ∀ other ∈ calls, other ∈ system.calls) :
    Accounted hold { db := db, calls := calls, answers := answers } := by
  have ready := accounted.ready call callMem
  have grown := grown_transaction accounted.sound accounted.onLine
    accounted.invoicedTo ready result
  refine
    { sound := sound_transaction accounted.sound result
      onLine := grown.onLine
      invoicedTo := grown.invoicedTo
      consistent := ?_
      ready := fun other otherMem =>
        ready_of_grown grown (accounted.ready other (remaining other otherMem)) }
  rcases orderCredit_transaction accounted callMem result with
    ⟨_, same⟩ | ⟨ofOrder, move⟩
  · exact same ▸ accounted.consistent
  · exact accounted.consistent.move move (amount_of_ready ready ofOrder)

/-- Calls and answers may come and go as long as every call agrees with the
database. -/
theorem Accounted.of_db {system system' : BillingSystem} {hold : CreditHoldRequest}
    (accounted : system.Accounted hold) (same : system'.db = system.db)
    (ready : ∀ call ∈ system'.calls,
      call ∈ system.calls ∨ call.Ready system.db hold) :
    system'.Accounted hold where
  sound := same ▸ accounted.sound
  onLine := same ▸ accounted.onLine
  invoicedTo := same ▸ accounted.invoicedTo
  consistent := same ▸ accounted.consistent
  ready := by
    intro call callMem
    rw [same]
    rcases ready call callMem with old | agrees
    · exact accounted.ready call old
    · exact agrees

theorem mem_of_mem_finished {system : BillingSystem} {index : Nat}
    {call : BillingCall} (callMem : call ∈ (system.finished index).calls) :
    call ∈ system.calls :=
  List.mem_of_mem_eraseIdx callMem

/-- A resolved invoice is stored. -/
theorem ready_resolved {db : BillingDb} {hold : CreditHoldRequest}
    {request : PaymentRegisterRequest} {invoice : InvoiceRow}
    (found : db.resolveInvoice request = some invoice) :
    (BillingCall.paymentRegister request invoice).Ready db hold := by
  have stored : invoice ∈ db.invoices := by
    unfold resolveInvoice at found
    split at found
    · exact List.mem_of_find?_eq_some found
    · exact List.mem_of_find?_eq_some found
    · cases found
  exact ⟨invoice, stored, rfl, rfl, rfl, rfl⟩

/-- A received request agrees with the database. -/
theorem ready_received {system : BillingSystem} {hold : CreditHoldRequest}
    {request : BillingRequest} {call : BillingCall}
    (serves : call.request = request)
    (unresolved : ∀ payment invoice, call ≠ .paymentRegister payment invoice)
    (sameRequest : SameHoldRequest hold system (.receive request)) :
    call.Ready system.db hold := by
  cases call with
  | creditHold received =>
      subst serves
      exact sameRequest received rfl
  | creditRelease | invoiceIssue | paymentLooked => trivial
  | paymentRegister payment invoice => exact absurd rfl (unresolved payment invoice)

/-- Every action keeps the account of the order. -/
theorem accounted_step {system system' : BillingSystem} {action : BillingAction}
    {hold : CreditHoldRequest} (accounted : system.Accounted hold)
    (sameRequest : SameHoldRequest hold system action)
    (stepped : step system action = some system') :
    system'.Accounted hold := by
  cases step_change stepped with
  | received request call serves unresolved =>
      refine accounted.of_db rfl fun other otherMem => ?_
      rcases List.mem_append.mp otherMem with old | new
      · exact Or.inl old
      · rw [List.mem_singleton.mp new]
        exact Or.inr (ready_received serves unresolved sameRequest)
  | alreadyInvoiced | alreadyRecorded =>
      exact accounted.of_db rfl fun other otherMem => Or.inl otherMem
  | unknownInvoice | refused | aborted =>
      exact accounted.of_db rfl fun other otherMem =>
        Or.inl (mem_of_mem_finished otherMem)
  | resolved index request invoice looked found =>
      refine accounted.of_db rfl fun other otherMem => ?_
      rcases List.mem_append.mp otherMem with old | new
      · exact Or.inl (mem_of_mem_finished old)
      · rw [List.mem_singleton.mp new]
        exact Or.inr (ready_resolved found)
  | committed index drawn call db reply found result =>
      exact accounted.commit (List.mem_of_getElem? found) result _
        fun other otherMem => mem_of_mem_finished otherMem

/-- What one action does to an accounted order: nothing, or a move of a call
that runs. -/
theorem orderCredit_step {system system' : BillingSystem} {action : BillingAction}
    {hold : CreditHoldRequest} (accounted : system.Accounted hold)
    (stepped : step system action = some system') :
    system'.db.orderCredit hold.orderReference =
        system.db.orderCredit hold.orderReference ∨
      ∃ index drawn call, action = .run index drawn ∧
        system.calls[index]? = some call ∧
          call.order? = some hold.orderReference ∧
            (system.db.orderCredit hold.orderReference).Move call
              (system'.db.orderCredit hold.orderReference) := by
  cases step_change stepped with
  | committed index drawn call db reply found result =>
      rcases orderCredit_transaction accounted (List.mem_of_getElem? found)
        result with ⟨_, same⟩ | ⟨ofOrder, move⟩
      · exact Or.inl same
      · exact Or.inr ⟨index, drawn, call, rfl, found, ofOrder, move⟩
  | received | alreadyInvoiced | alreadyRecorded | unknownInvoice | resolved
  | refused | aborted => exact Or.inl rfl

end BillingSystem

end OrderToCash.Billing
