import OrderToCash.Fulfillment.StockList
import OrderToCash.Saga.Backing

/-!
# The books of a warehouse

What the stock list shows of a line is what Orders has promised and what has
left: the reserved units are those of the placed orders whose stock is neither
given back nor shipped, and the units are what there was and what was
replenished, less what was shipped for the orders.  Nothing else moves stock,
whatever is delivered again, interleaved or cancelled.
-/

namespace OrderToCash.Saga

open OrderToCash.Billing
open OrderToCash.Contracts
open OrderToCash.Fulfillment
open OrderToCash.Kernel
open OrderToCash.Orders
open OrderToCash.Table
open OrderToCash.Transition

/-- The saga runs Fulfillment as Fulfillment runs. -/
theorem fulfillment_of_reachable {guard : Guard SagaSystem SagaAction}
    {stock : StockCatalogue} {credits : CreditCatalogue} {system : SagaSystem}
    (reached : Reachable SagaSystem.step guard (SagaSystem.initial stock credits) system) :
    Reachable FulfillmentSystem.step unguarded (FulfillmentSystem.initial stock)
      system.fulfillment := by
  induction reached with
  | refl => exact .refl
  | tail path admitted stepped inductionHypothesis =>
      rename_i before after action
      rcases SagaSystem.step_eq_some.mp stepped with ⟨enabled, acted⟩
      cases action with
      | orders action =>
          simp only [SagaSystem.act, Option.map_eq_some_iff] at acted
          rcases acted with ⟨orders, _, rfl⟩
          exact inductionHypothesis
      | fulfillment action =>
          simp only [SagaSystem.act, Option.map_eq_some_iff] at acted
          rcases acted with ⟨fulfillment, serviceStepped, rfl⟩
          exact inductionHypothesis.tail trivial serviceStepped
      | billing action =>
          simp only [SagaSystem.act, Option.map_eq_some_iff] at acted
          rcases acted with ⟨billing, _, rfl⟩
          exact inductionHypothesis

/-! ## What an order has of a line -/

/-- The units of the order are set aside, neither given back nor shipped. -/
structure Promised (system : SagaSystem) (line : StockRow) (props : OrderProps) :
    Prop where
  stored : system.orders.db.orders props.orderReference = some props
  ofCompany : props.companyCode = line.companyCode
  reserved : ReservedInFull props system.fulfillment.db
  notReleased : ∀ payload, Fact.stockReleased payload ∈ system.fulfillment.db.outbox →
    payload.orderReference ≠ props.orderReference
  unshipped : (system.fulfillment.db.orderStock props.orderReference).despatches = []

/-- The units of the order have left the company. -/
structure ShippedFrom (system : SagaSystem) (line : StockRow) (props : OrderProps) :
    Prop where
  stored : system.orders.db.orders props.orderReference = some props
  ofCompany : props.companyCode = line.companyCode
  shipped : ShippedInFull props system.fulfillment.db

section Order

variable {order : OrderNumber} {system : SagaSystem} {saga : OrderSaga} {row : OrderProps}
  (line : StockRow) (represents : Represents order system saga)
  (keeps : KeepsTerms order (termsOf row) system.orders)
  (carriesOut : CarriesOut order (termsOf row) system)
  (stored : system.orders.db.orders order = some row)
include represents keeps carriesOut stored

/-- An order is promised its units while its stock is reserved. -/
theorem Represents.promised_iff : Promised system line row ↔
    row.companyCode = line.companyCode ∧ saga.stock = some .reserved := by
  have ofOrder : row.orderReference = order := keeps.ofOrder
  have emissions := represents.coherent.emissions
  subst ofOrder
  constructor
  · intro promised
    refine ⟨promised.ofCompany, ?_⟩
    cases phase : saga.stock with
    | none =>
        have none := represents.stock.phase.symm.trans phase
        exact absurd (OrderStock.phase_eq_none_iff.mp none) promised.reserved.1
    | some status =>
        cases status with
        | reserved => rfl
        | released =>
            rcases emissions.isReleased phase with ⟨reason, emitted⟩
            rcases (represents.emitted_iff _).mp emitted with
              ⟨fact, told, ofOrder, isFact⟩
            cases fact with
            | stockReleased payload =>
                exact absurd ofOrder (promised.notReleased payload told)
            | _ => simp [sagaFact?] at isFact
        | consumed =>
            rcases represents.shippedInFull keeps.owesOnly rfl carriesOut phase with
              ⟨despatch, only, _⟩
            have unshipped := promised.unshipped.symm.trans only
            cases unshipped
  · rintro ⟨ofCompany, isReserved⟩
    have reserved : ReservedInFull (termsOf row) system.fulfillment.db :=
      represents.reservedInFull keeps.ofOrder carriesOut (by simp [isReserved])
    refine ⟨stored, ofCompany, reserved, ?_, ?_⟩
    · intro payload told ofOrder
      have emitted : saga.emitted (.stockReleased payload.reason) :=
        (represents.emitted_iff _).mpr ⟨_, told, ofOrder, by simp [sagaFact?]⟩
      have released := (emissions.released _ emitted).1
      rw [isReserved] at released
      cases released
    · by_contra some
      rcases List.exists_mem_of_ne_nil _ some with ⟨despatch, listed⟩
      rcases List.mem_filter.mp listed with ⟨despatchMem, isOrder⟩
      have consumed := represents.consumed_of_despatch despatchMem
        (of_decide_eq_true isOrder)
      rw [isReserved] at consumed
      cases consumed

/-- The units of an order have left while its stock is consumed. -/
theorem Represents.shippedFrom_iff : ShippedFrom system line row ↔
    row.companyCode = line.companyCode ∧ saga.stock = some .consumed := by
  have ofOrder : row.orderReference = order := keeps.ofOrder
  subst ofOrder
  constructor
  · intro shippedFrom
    rcases shippedFrom.shipped with ⟨despatch, only, _⟩
    have listed : despatch ∈
        (system.fulfillment.db.orderStock row.orderReference).despatches := by
      rw [only]
      exact List.mem_singleton_self despatch
    rcases List.mem_filter.mp listed with ⟨despatchMem, isOrder⟩
    exact ⟨shippedFrom.ofCompany,
      represents.consumed_of_despatch despatchMem (of_decide_eq_true isOrder)⟩
  · rintro ⟨ofCompany, consumed⟩
    have shipped : ShippedInFull (termsOf row) system.fulfillment.db :=
      represents.shippedInFull keeps.owesOnly keeps.ofOrder carriesOut consumed
    exact ⟨stored, ofCompany, shipped⟩

omit stored in
/-- On a line an order has the units it is for, in the status of its stock. -/
theorem Represents.unitsWhere_isOn
    (lineMem : line ∈ system.fulfillment.db.stock) (status : ReservationStatus) :
    FulfillmentDb.unitsWhere (FulfillmentDb.IsOn line.id status)
        (system.fulfillment.db.reservationsOf order) =
      if row.companyCode = line.companyCode ∧ saga.stock = some status then
        orderedUnits row line.productCode
      else 0 := by
  have arbitrated := represents.stock.arbitrated row.companyCode
    (reserveLinesOf (termsOf row)) fun request requestOf owes => by
      have asks : request = ⟨_, _, _, _⟩ :=
        keeps.owesOnly (.stockReserve request) requestOf owes
      rw [asks]
      exact ⟨rfl, rfl⟩
  rw [FulfillmentDb.unitsWhere_isOn arbitrated.sound.keyed lineMem arbitrated.serves
    arbitrated.consistent.uniform, ← represents.stock.phase]
  by_cases here : row.companyCode = line.companyCode ∧ saga.stock = some status
  · have existing : system.fulfillment.db.reservationsOf order ≠ [] := by
      intro none
      have unreserved : (system.fulfillment.db.orderStock order).phase = .none :=
        OrderStock.phase_eq_none_iff.mpr none
      rw [← represents.stock.phase, here.2] at unreserved
      cases unreserved
    rw [if_pos here, if_pos here, carriesOut.inFull existing,
      requestedTotal_reserveLinesOf]
    rfl
  · rw [if_neg here, if_neg here]

end Order

/-! ## What all orders have of a line -/

/-- The row of an order whose stock at the line's company is in a status. -/
def stockedOf (system : SagaSystem) (line : StockRow) (status : ReservationStatus)
    (order : OrderNumber) : Option OrderProps :=
  (system.orders.db.orders order).filter fun row =>
    row.companyCode = line.companyCode ∧
      (system.fulfillment.db.orderStock order).phase = some status

section Line

variable {stock : StockCatalogue} {credits : CreditCatalogue} {system : SagaSystem}
  (reached : Reachable SagaSystem.step unguarded (SagaSystem.initial stock credits) system)
include reached

theorem stockedOf_iff {line : StockRow} {order : OrderNumber} {row : OrderProps} :
    (stockedOf system line .reserved order = some row ↔
        row.orderReference = order ∧ Promised system line row) ∧
      (stockedOf system line .consumed order = some row ↔
        row.orderReference = order ∧ ShippedFrom system line row) := by
  have atOnce : ∀ {status : ReservationStatus} {Holds : Prop},
      (Holds → system.orders.db.orders row.orderReference = some row) →
      (∀ {saga : OrderSaga}, Represents row.orderReference system saga →
        KeepsTerms row.orderReference (termsOf row) system.orders →
          CarriesOut row.orderReference (termsOf row) system →
            system.orders.db.orders row.orderReference = some row →
        (Holds ↔ row.companyCode = line.companyCode ∧ saga.stock = some status)) →
      (stockedOf system line status order = some row ↔
        row.orderReference = order ∧ Holds) := by
    intro status Holds isStored holds_iff
    simp only [stockedOf, Option.filter_eq_some_iff, decide_eq_true_eq]
    constructor
    · rintro ⟨stored, ofCompany, inStatus⟩
      rcases exists_carriedOut reached stored with ⟨saga, represents, keeps, carriesOut⟩
      have ofOrder : row.orderReference = order := keeps.ofOrder
      subst ofOrder
      rw [← represents.stock.phase] at inStatus
      exact ⟨rfl, (holds_iff represents keeps carriesOut stored).mpr ⟨ofCompany, inStatus⟩⟩
    · rintro ⟨rfl, holds⟩
      have stored := isStored holds
      rcases exists_carriedOut reached stored with ⟨saga, represents, keeps, carriesOut⟩
      rw [← represents.stock.phase]
      exact ⟨stored, (holds_iff represents keeps carriesOut stored).mp holds⟩
  constructor
  · exact atOnce Promised.stored fun represents keeps carriesOut stored =>
      represents.promised_iff line keeps carriesOut stored
  · exact atOnce ShippedFrom.stored fun represents keeps carriesOut stored =>
      represents.shippedFrom_iff line keeps carriesOut stored

/-- What is on a line in a status, in the units of the orders that have it. -/
theorem unitsWhere_of_orders {line : StockRow}
    (lineMem : line ∈ system.fulfillment.db.stock) (status : ReservationStatus) :
    ∃ orders : List OrderProps, (orders.map OrderProps.orderReference).Nodup ∧
      (∀ row, row ∈ orders ↔ stockedOf system line status row.orderReference = some row) ∧
        FulfillmentDb.unitsWhere (FulfillmentDb.IsOn line.id status)
            system.fulfillment.db.reservations =
          (orders.map (orderedUnits · line.productCode)).sum := by
  let known := (system.fulfillment.db.reservations.map fun row =>
    row.reservation.orderReference).eraseDups
  have distinct : known.Nodup := nodup_eraseDups _
  have keyed : ∀ order row, stockedOf system line status order = some row →
      row.orderReference = order := by
    intro order row isStocked
    have stored := (Option.filter_eq_some_iff.mp isStocked).1
    rcases exists_carriedOut reached stored with ⟨_, _, keeps, _⟩
    exact keeps.ofOrder
  refine ⟨known.filterMap (stockedOf system line status), ?_, ?_, ?_⟩
  · rw [List.map_filterMap]
    apply distinct.filterMap
    intro first second reference ofFirst ofSecond
    rcases Option.map_eq_some_iff.mp ofFirst with ⟨row, isStocked, rfl⟩
    rcases Option.map_eq_some_iff.mp ofSecond with ⟨other, otherStocked, same⟩
    rw [← keyed first row isStocked, ← same, keyed second other otherStocked]
  · intro row
    constructor
    · intro rowMem
      rcases List.mem_filterMap.mp rowMem with ⟨order, _, isStocked⟩
      rw [keyed order row isStocked]
      exact isStocked
    · intro isStocked
      apply List.mem_filterMap.mpr
      refine ⟨row.orderReference, ?_, isStocked⟩
      have inStatus :=
        (of_decide_eq_true (Option.filter_eq_some_iff.mp isStocked).2).2
      rcases Option.map_eq_some_iff.mp inStatus with ⟨reserved, first, _⟩
      rcases List.mem_filter.mp (List.mem_of_mem_head? first) with ⟨listed, isOrder⟩
      apply List.mem_eraseDups.mpr
      have ofOrder : reserved.reservation.orderReference = row.orderReference :=
        of_decide_eq_true isOrder
      rw [← ofOrder]
      exact List.mem_map_of_mem listed
  · rw [sum_map_filterMap, FulfillmentDb.unitsWhere_by_order _ _ distinct]
    · congr 1
      apply List.map_congr_left
      intro order _
      cases stored : system.orders.db.orders order with
      | none =>
          rcases exists_represented order reached with ⟨saga, represents⟩
          rw [(represents.untouched stored).reservations, stockedOf, stored]
          rfl
      | some row =>
          rcases exists_carriedOut reached stored with
            ⟨saga, represents, keeps, carriesOut⟩
          rw [represents.unitsWhere_isOn line keeps carriesOut lineMem, stockedOf,
            stored, represents.stock.phase, Option.filter_some]
          simp only [decide_eq_true_eq]
          split
          · rfl
          · rfl
    · intro row rowMem
      exact List.mem_eraseDups.mpr (List.mem_map_of_mem rowMem)

/-- What is reserved on a line is promised, and what is consumed was shipped. -/
theorem books_of_stock {line : StockRow} (lineMem : line ∈ system.fulfillment.db.stock) :
    (∃ promised : List OrderProps, (promised.map OrderProps.orderReference).Nodup ∧
      (∀ row, row ∈ promised ↔ Promised system line row) ∧
        FulfillmentDb.unitsWhere (FulfillmentDb.IsReservedOn line.id)
            system.fulfillment.db.reservations =
          (promised.map (orderedUnits · line.productCode)).sum) ∧
      ∃ shipped : List OrderProps, (shipped.map OrderProps.orderReference).Nodup ∧
        (∀ row, row ∈ shipped ↔ ShippedFrom system line row) ∧
          FulfillmentDb.unitsWhere (FulfillmentDb.IsConsumedOn line.id)
              system.fulfillment.db.reservations =
            (shipped.map (orderedUnits · line.productCode)).sum := by
  rcases unitsWhere_of_orders reached lineMem .reserved with
    ⟨promised, distinct, isPromised, reserved⟩
  rcases unitsWhere_of_orders reached lineMem .consumed with
    ⟨shipped, shippedDistinct, isShipped, consumed⟩
  rw [FulfillmentDb.isOn_reserved] at reserved
  rw [FulfillmentDb.isOn_consumed] at consumed
  constructor
  · refine ⟨promised, distinct, fun row => (isPromised row).trans ?_, reserved⟩
    exact (stockedOf_iff reached).1.trans (and_iff_right rfl)
  · refine ⟨shipped, shippedDistinct, fun row => (isShipped row).trans ?_, consumed⟩
    exact (stockedOf_iff reached).2.trans (and_iff_right rfl)

end Line

/-- What the stock list says of a line is what the orders have promised of it and
what has left for them. -/
structure Stocked (stock : StockCatalogue) (system : SagaSystem) (line : StockRow)
    (view : Fulfillment.StockView) : Prop where
  ofLine : view.companyCode = line.companyCode ∧ view.productCode = line.productCode ∧
    view.lowStockThreshold = line.lowStockThreshold
  reservedUnits : ∃ promised : List OrderProps,
    (promised.map OrderProps.orderReference).Nodup ∧
      (∀ row, row ∈ promised ↔ Promised system line row) ∧
        view.reservedUnits = (promised.map (orderedUnits · view.productCode)).sum
  units : ∃ first ∈ stock.rows, first.companyCode = view.companyCode ∧
    first.productCode = view.productCode ∧
      ∃ shipped : List OrderProps, (shipped.map OrderProps.orderReference).Nodup ∧
        (∀ row, row ∈ shipped ↔ ShippedFrom system line row) ∧
          view.units = first.units +
            system.fulfillment.replenished view.companyCode view.productCode -
              (shipped.map (orderedUnits · view.productCode)).sum
  availableUnits : view.availableUnits = view.units - view.reservedUnits
  notOversold : 0 ≤ view.reservedUnits ∧ 0 ≤ view.availableUnits

/-- Whatever the services interleave, deliver again or cancel, the lines of every
page of the stock list balance, and its pages show each line asked for once. -/
theorem stock_list_balances {stock : StockCatalogue} {credits : CreditCatalogue}
    {system : SagaSystem}
    (reached : Reachable SagaSystem.step unguarded (SagaSystem.initial stock credits) system)
    (collates : String → String → Bool) (query : StockListRequest)
    (positive : 0 < query.pageSize.getD Fulfillment.defaultPageSize) :
    List.Forall₂ (Stocked stock system) (system.fulfillment.db.pageOf collates query)
        (system.fulfillment.db.list collates query).items ∧
      ((List.range (totalPages (system.fulfillment.db.list collates query).page)).flatMap
        fun page => (system.fulfillment.db.list collates
          { query with page := some (page + 1) }).items).Perm
        ((system.fulfillment.db.listed query).map toStockView) := by
  have balanced := FulfillmentSystem.stock_balanced stock (fulfillment_of_reachable reached)
  constructor
  · rw [FulfillmentDb.list, List.forall₂_map_right_iff, List.forall₂_same]
    intro line onPage
    have lineMem :=
      (FulfillmentDb.mem_listed.mp (FulfillmentDb.mem_listed_of_mem_pageOf onPage)).1
    rcases balanced.rows line lineMem with ⟨nonneg, within, counted, first, firstMem, _,
      company, product, explained⟩
    rcases books_of_stock reached lineMem with
      ⟨⟨promised, distinct, isPromised, reserved⟩,
        ⟨shipped, shippedDistinct, isShipped, consumed⟩⟩
    refine ⟨⟨rfl, rfl, rfl⟩, ⟨promised, distinct, isPromised, counted.trans reserved⟩,
      ⟨first, firstMem, company, product, shipped, shippedDistinct, isShipped, ?_⟩, rfl,
      nonneg, Int.sub_nonneg_of_le within⟩
    exact consumed ▸ explained
  · have shown := (FulfillmentDb.pages_perm_listed system.fulfillment.db collates query
      positive).map toStockView
    rwa [List.map_flatMap] at shown

/-- An order that is despatched beside one that is reserved. -/
def despatchedBesideReserved : List (SagaSystem → SagaAction) :=
  paidInTheEnd.take 17 ++
    [ fun _ => .orders (.place 1 { singleLineOrder with orderReference := ⟨2⟩ }
        (singleLineForm 1)),
      SagaSystem.deliver .orders 2,
      fun _ => .orders (.commit 0),
      SagaSystem.dispatch ⟨2⟩ .stockReserve,
      fun _ => .fulfillment (.run 0),
      fun _ => .fulfillment (.receive (.stockReplenish ⟨"COM-0001", [⟨"PRD-0001", 4⟩]⟩)),
      fun _ => .fulfillment (.run 0) ]

theorem stock_of_despatched_and_reserved :
    ∃ system : SagaSystem,
      Reachable SagaSystem.step unguarded
        (SagaSystem.initial FulfillmentSystem.twoProducts tenThousandLimit) system ∧
      (system.fulfillment.db.list (fun first second => first ≤ second)
        ⟨none, some "PRD-0001", none, none, none⟩).items.map (fun view =>
          (view.productCode, view.units, view.reservedUnits, view.availableUnits)) =
        [("PRD-0001", 12, 2, 10)] ∧
      List.Forall₂ (Stocked FulfillmentSystem.twoProducts system)
        (system.fulfillment.db.pageOf (fun first second => first ≤ second)
          ⟨none, some "PRD-0001", none, none, none⟩)
        (system.fulfillment.db.list (fun first second => first ≤ second)
          ⟨none, some "PRD-0001", none, none, none⟩).items := by
  have ran : (execute (choosing SagaSystem.step)
      (fun state choose => decide (unguarded state (choose state)))
      (SagaSystem.initial FulfillmentSystem.twoProducts tenThousandLimit)
      despatchedBesideReserved).map (fun system =>
        (system.fulfillment.db.list (fun first second => first ≤ second)
          ⟨none, some "PRD-0001", none, none, none⟩).items.map fun view =>
            (view.productCode, view.units, view.reservedUnits, view.availableUnits)) =
      some [("PRD-0001", 12, 2, 10)] := by
    decide +kernel
  rcases Option.map_eq_some_iff.mp ran with ⟨system, executed, shown⟩
  have reached := reachable_of_choices executed
  have balances := stock_list_balances reached (fun first second => first ≤ second)
    ⟨none, some "PRD-0001", none, none, none⟩ (by decide)
  exact ⟨system, reached, shown, balances.1⟩

end OrderToCash.Saga
