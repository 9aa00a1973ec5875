import OrderToCash.Saga.Orderly
import OrderToCash.Saga.Terms

/-!
# The terms of an order are kept

From the moment an order is placed, its row, whatever a transaction has read of
it, and every command that is stored for it are on the terms it was placed on.
-/

namespace OrderToCash.Orders

open OrderToCash.Contracts
open OrderToCash.Kernel

/-- No write brings an order row about. -/
theorem OrdersDb.orders_none_of_writes {db : OrdersDb} {order : OrderNumber}
    {writes : List OrdersWrite} (unplaced : db.orders order = none) :
    (applyWrites db writes).orders order = none := by
  induction writes generalizing db with
  | nil => exact unplaced
  | cons write rest inductionHypothesis =>
      apply inductionHypothesis
      cases write with
      | save saved =>
          simp only [OrdersWrite.apply, save_orders]
          split
          · rename_i ofOrder
            rw [unplaced]
            rfl
          · exact unplaced
      | enqueue other kind row =>
          rw [OrdersWrite.apply, enqueue_orders]
          exact unplaced
      | recordIgnored ignored => exact unplaced

end OrderToCash.Orders

namespace OrderToCash.Saga

open OrderToCash.Billing
open OrderToCash.Contracts
open OrderToCash.Fulfillment
open OrderToCash.Kernel
open OrderToCash.Orders
open OrderToCash.Transition

variable {order : OrderNumber} {terms : OrderProps}

/-- Whatever Orders has stored or read of an order is on its terms. -/
structure KeepsTerms (order : OrderNumber) (terms : OrderProps)
    (system : OrdersSystem) : Prop where
  priced : Priced terms
  ofOrder : terms.orderReference = order
  row : ∀ row ∈ system.db.orders order, termsOf row = terms
  read : ∀ opened ∈ system.openTransactions, opened.work.order = order →
    ∀ row ∈ opened.snapshot.orders order, termsOf row = terms
  asked : ∀ kind row, system.db.sagaCommands order kind = some row →
    Asks terms row.payload

namespace KeepsTerms

variable {system system' : OrdersSystem} {action : OrdersAction}
  (keeps : KeepsTerms order terms system)
include keeps

/-- A transaction upholds the terms it has read. -/
theorem upholds (keyed : ∀ opened ∈ system.openTransactions, opened.snapshot.Keyed)
    {index : Nat} {opened : OpenTransaction} {writes : List OrdersWrite}
    (found : system.openTransactions[index]? = some opened)
    (decides : opened.Decides writes) :
    ∀ write ∈ writes, Upholds order terms write := by
  have openedMem := List.mem_of_getElem? found
  exact upholds_of_decides keeps.priced (keeps.read opened openedMem)
    (keyed opened openedMem) decides

variable (stepped : OrdersSystem.step system action = some system')
include stepped

/-- What an action begins to read is on the terms. -/
theorem read_step : ∀ opened ∈ system'.openTransactions, opened.work.order = order →
    ∀ row ∈ opened.snapshot.orders order, termsOf row = terms := by
  intro opened openedMem
  cases openChange stepped with
  | same _ unchanged =>
      rw [unchanged] at openedMem
      exact keeps.read opened openedMem
  | ended index other _ _ erased =>
      rw [erased] at openedMem
      exact keeps.read opened (List.mem_of_mem_eraseIdx openedMem)
  | begun work _ _ appended =>
      rw [appended] at openedMem
      rcases List.mem_append.mp openedMem with before | new
      · exact keeps.read opened before
      · rw [List.mem_singleton.mp new]
        exact fun _ => keeps.row

variable (keyed : ∀ opened ∈ system.openTransactions, opened.snapshot.Keyed)
include keyed

/-- No row of a placed order leaves its terms. -/
theorem row_step (placed : system.db.orders order ≠ none) :
    ∀ row ∈ system'.db.orders order, termsOf row = terms := by
  rcases OrdersSystem.step_orders stepped with
    ⟨firstLineId, input, form, created, rfl, isNew, isPlaced, _, rfl⟩ |
      ⟨index, _, rfl, _⟩ | ⟨unchanged, _⟩
  · intro row stored
    simp only [OrdersDb.insert, Option.mem_def] at stored
    rw [Function.update_of_ne] at stored
    · exact keeps.row row stored
    · rintro rfl
      rw [(Order.place_eq_ok isPlaced).1] at placed
      exact placed isNew
  · rcases OrdersSystem.commit_writes stepped with
      ⟨opened, writes, middle, found, decides, sameRows, _, applied, _⟩
    rw [applied]
    apply terms_of_writes keeps.priced (keeps.upholds keyed found decides)
    rw [sameRows]
    exact keeps.row
  · rw [unchanged]
    exact keeps.row

/-- Every command that is stored asks for what the order says. -/
theorem asked_step : ∀ kind row, system'.db.sagaCommands order kind = some row →
    Asks terms row.payload := by
  intro kind row stored
  cases OrdersSystem.row_change stepped stored with
  | kept before isStored payload | sent before isStored payload
  | rejected _ _ before isStored payload | parked _ _ before isStored payload =>
      rw [payload]
      exact keeps.asked kind before isStored
  | enqueued absent enqueues =>
      cases enqueues with
      | cancel index note => exact keeps.ofOrder.symm
      | commit index opened writes kind row found decides written =>
          exact keeps.upholds keyed found decides _ written rfl

theorem step (placed : system.db.orders order ≠ none) :
    KeepsTerms order terms system' where
  priced := keeps.priced
  ofOrder := keeps.ofOrder
  row := keeps.row_step stepped keyed placed
  read := keeps.read_step stepped
  asked := keeps.asked_step stepped keyed

end KeepsTerms

/-- The terms an order is placed on are kept from there. -/
theorem keepsTerms_of_place {outbox : Topic → List Fact} {system system' : OrdersSystem}
    {action : OrdersAction} {saga : OrderSaga} (coherent : saga.Coherent)
    (tables : Tables order system.db saga) (underWay : UnderWay order outbox system saga)
    (stepped : OrdersSystem.step system action = some system')
    (unplaced : system.db.orders order = none)
    (placed : system'.db.orders order ≠ none) :
    ∃ terms, KeepsTerms order terms system' := by
  have unknown : saga.current.status = none := by
    rw [tables.current]
    simp [OrdersDb.version, OrdersDb.statusOf, unplaced]
  rcases OrdersSystem.step_orders stepped with
    ⟨firstLineId, input, form, created, rfl, _, isPlaced, fits, rfl⟩ |
      ⟨index, _, rfl, _⟩ | ⟨unchanged, _⟩
  · have reference : created.props.orderReference = order := by
      by_contra differs
      apply placed
      change Function.update system.db.orders created.props.orderReference _ order = _
      rw [Function.update_of_ne (Ne.symm differs)]
      exact unplaced
    refine ⟨termsOf (form.row created.props),
      priced_termsOf.mpr ((priced_of_place isPlaced).row fits), reference, ?_, ?_, ?_⟩
    · intro row stored
      change Function.update system.db.orders created.props.orderReference _ order = _
        at stored
      rw [reference, Function.update_self] at stored
      rw [← Option.some.inj stored]
    · intro opened openedMem ofOrder
      exact absurd unknown (underWay.opened opened openedMem ofOrder).2
    · intro kind row stored
      have owed : saga.owed kind := by
        rw [tables.owed, OrdersDb.commands]
        change system.db.sagaCommands order kind = some row at stored
        rw [stored]
        simp
      exact absurd unknown (coherent.commands.isPlaced kind owed)
  · rcases OrdersSystem.commit_writes stepped with
      ⟨_, writes, middle, _, _, sameRows, _, applied, _⟩
    rw [applied] at placed
    rw [← sameRows] at unplaced
    exact absurd (OrdersDb.orders_none_of_writes unplaced) placed
  · rw [unchanged] at placed
    exact absurd unplaced placed

/-- In every reachable state a placed order has its terms. -/
theorem exists_terms {guard : Guard SagaSystem SagaAction} {stock : StockCatalogue}
    {credits : CreditCatalogue} {system : SagaSystem}
    (reached : Reachable SagaSystem.step guard (SagaSystem.initial stock credits) system)
    (placed : system.orders.db.orders order ≠ none) :
    ∃ terms, KeepsTerms order terms system.orders := by
  induction reached with
  | refl => exact absurd rfl placed
  | tail path admitted stepped inductionHypothesis =>
      rename_i before _ after
      rcases exists_represented order path with ⟨saga, represents⟩
      rcases serviceStep_orders stepped with same | ⟨ordersAction, rfl, ordersStepped⟩
      · rw [same] at placed ⊢
        exact inductionHypothesis placed
      · by_cases before' : before.orders.db.orders order = none
        · exact keepsTerms_of_place represents.coherent represents.orders.tables
            represents.orders.underWay ordersStepped before' placed
        · rcases inductionHypothesis before' with ⟨terms, keeps⟩
          exact ⟨terms, keeps.step ordersStepped represents.orders.underWay.keyed before'⟩

end OrderToCash.Saga
