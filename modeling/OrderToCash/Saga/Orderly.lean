import OrderToCash.Saga.Announced
import OrderToCash.Saga.Serial

/-!
# Orderly runs

A run is orderly for an order where Orders opens one transaction on it at a time
and is delivered its facts in the order of their topics.  The saga of the order
then moves by fresh reads, in turn, and Orders has told of what the order is.
-/

namespace OrderToCash.Saga

open OrderToCash.Contracts
open OrderToCash.Fulfillment
open OrderToCash.Billing
open OrderToCash.Kernel
open OrderToCash.Log
open OrderToCash.Orders
open OrderToCash.Transition

/-- The transactions on the order are serial and its facts in order. -/
def SagaSystem.Orderly (order : OrderNumber) : Guard SagaSystem SagaAction :=
  fun system action =>
    SagaSystem.Serial order system action ∧ SagaSystem.Fifo order system action

instance (order : OrderNumber) (system : SagaSystem) (action : SagaAction) :
    Decidable (SagaSystem.Orderly order system action) :=
  inferInstanceAs (Decidable (_ ∧ _))

namespace OrderSaga

/-- A move reads the version it follows. -/
def Fresh (saga : OrderSaga) (label : Label) : Prop :=
  ∀ read ∈ label.read?, read = saga.current

/-- No fact is handled while one that precedes it is pending. -/
def InTurn (saga : OrderSaga) (label : Label) : Prop :=
  ∀ fact read, label = .handle fact read →
    ∀ earlier, Precedes earlier fact → ¬ saga.pending earlier

/-- The moves of an orderly run. -/
def Orderly (saga : OrderSaga) (label : Label) : Prop :=
  saga.Fresh label ∧ saga.InTurn label

end OrderSaga

variable {order : OrderNumber} {system system' : SagaSystem} {saga : OrderSaga}
  {action : SagaAction}

/-- Facts delivered in order are handled in order. -/
theorem inOrder_step (represents : Represents order system saga)
    (fifo : SagaSystem.Fifo order system action) (inOrder : InOrder order system)
    (stepped : SagaSystem.step system action = some system') : InOrder order system' := by
  intro opened openedMem envelope sourceTopic isWork ofOrder position below
  rcases opened_step stepped openedMem with before | ⟨ordersAction, rfl, begins⟩
  · have published := (represents.orders.underWay.delivered opened before envelope
      sourceTopic isWork).1
    apply settled_step represents stepped
    · exact Nat.lt_trans below (List.getElem?_eq_some_iff.mp published).1
    · exact inOrder opened before envelope sourceTopic isWork ofOrder position below
  · cases begins envelope sourceTopic isWork
    have published := (SagaSystem.step_eq_some.mp stepped).1.1
    apply settled_step represents stepped
    · exact Nat.lt_trans below (List.getElem?_eq_some_iff.mp published).1
    · exact fifo ofOrder position below

/-- What the other services have appended of an order is for the saga. -/
structure Seen (order : OrderNumber) (system : SagaSystem) : Prop where
  stock : ∀ fact ∈ (system.fulfillment.db.orderStock order).facts, sagaFact? fact ≠ none
  credit : ∀ fact ∈ (system.billing.db.orderCredit order).facts, sagaFact? fact ≠ none

theorem Seen.step (seen : Seen order system) (represents : Represents order system saga)
    (stepped : SagaSystem.step system action = some system') : Seen order system' := by
  rcases SagaSystem.step_eq_some.mp stepped with ⟨_, acted⟩
  cases action with
  | orders action =>
      simp only [SagaSystem.act, Option.map_eq_some_iff] at acted
      rcases acted with ⟨orders, _, rfl⟩
      exact ⟨seen.stock, seen.credit⟩
  | fulfillment action =>
      simp only [SagaSystem.act, Option.map_eq_some_iff] at acted
      rcases acted with ⟨fulfillment, serviceStepped, rfl⟩
      rcases exists_reserve order system.orders.db with ⟨companyCode, lines, compatible⟩
      have arbitrated := represents.stock.arbitrated companyCode lines compatible
      exact ⟨stockSeen_step arbitrated serviceStepped seen.stock, seen.credit⟩
  | billing action =>
      simp only [SagaSystem.act, Option.map_eq_some_iff] at acted
      rcases acted with ⟨billing, serviceStepped, rfl⟩
      rcases exists_hold order system.orders.db with ⟨hold, rfl, compatible⟩
      have accounted := represents.credit.accounted hold rfl compatible
      exact ⟨seen.stock, creditSeen_step accounted serviceStepped seen.credit⟩

/-- What holds of an order in an orderly run. -/
structure Orderly (order : OrderNumber) (system : SagaSystem) (saga : OrderSaga) :
    Prop where
  represents : Represents order system saga
  serialOn : system.orders.SerialOn order
  inOrder : InOrder order system
  told : Told (system.orders.db.announced order) (system.orders.db.version order)
  seen : Seen order system

theorem Orderly.initial (order : OrderNumber) (stock : StockCatalogue)
    (credits : CreditCatalogue) :
    Orderly order (SagaSystem.initial stock credits) OrderSaga.initial where
  represents := represents_initial order stock credits
  serialOn := .initial order
  inOrder := by
    rintro opened ⟨⟩
  told := .initial
  seen := by
    constructor
    · rintro fact ⟨⟩
    · rintro fact ⟨⟩

/-- An action of another service leaves Orders alone. -/
theorem serviceStep_orders (stepped : SagaSystem.step system action = some system') :
    system'.orders = system.orders ∨ ∃ ordersAction, action = .orders ordersAction ∧
      OrdersSystem.step system.orders ordersAction = some system'.orders := by
  rcases SagaSystem.step_eq_some.mp stepped with ⟨_, acted⟩
  cases action with
  | orders action =>
      simp only [SagaSystem.act, Option.map_eq_some_iff] at acted
      rcases acted with ⟨orders, ordersStepped, rfl⟩
      exact Or.inr ⟨action, rfl, ordersStepped⟩
  | fulfillment action =>
      simp only [SagaSystem.act, Option.map_eq_some_iff] at acted
      rcases acted with ⟨fulfillment, _, rfl⟩
      exact Or.inl rfl
  | billing action =>
      simp only [SagaSystem.act, Option.map_eq_some_iff] at acted
      rcases acted with ⟨billing, _, rfl⟩
      exact Or.inl rfl

/-- What Orders has told keeps up with the order. -/
theorem Orderly.told_step (orderly : Orderly order system saga)
    (stepped : SagaSystem.step system action = some system') :
    Told (system'.orders.db.announced order) (system'.orders.db.version order) := by
  rcases serviceStep_orders stepped with same | ⟨ordersAction, _, ordersStepped⟩
  · rw [same]
    exact orderly.told
  · apply orderly.told.step
    apply retellsIn_step orderly.represents.orders.underWay.keyed _ ordersStepped
    rintro opened openedMem rfl
    exact orderly.serialOn.current opened openedMem rfl

/-- Every orderly step leaves the saga alone or makes one move of it. -/
theorem Orderly.step (orderly : Orderly order system saga)
    (guarded : SagaSystem.Orderly order system action)
    (stepped : SagaSystem.step system action = some system') :
    Matches OrderSaga.Move (Orderly order) (Explains order) system action system' saga := by
  have serialOn := serialOn_step orderly.represents guarded.1 orderly.serialOn stepped
  have inOrder := inOrder_step orderly.represents guarded.2 orderly.inOrder stepped
  have told := orderly.told_step stepped
  have seen := orderly.seen.step orderly.represents stepped
  rcases represents_step orderly.represents stepped with
    same | ⟨label, saga', explained, moved, after⟩
  · exact Or.inl ⟨same, serialOn, inOrder, told, seen⟩
  · exact Or.inr ⟨label, saga', explained, moved, after, serialOn, inOrder, told, seen⟩

/-- The move of a serial run reads what is there. -/
theorem Represents.fresh (represents : Represents order system saga)
    (serialOn : system.orders.SerialOn order) {label : OrderSaga.Label}
    (explained : Explains order system action label) : saga.Fresh label := by
  intro read isRead
  rcases explained.commits read isRead with ⟨index, opened, _, found, ofOrder, _, rfl⟩
  rw [represents.orders.tables.current]
  exact serialOn.current opened (List.mem_of_getElem? found) ofOrder

/-- What precedes a fact that is being handled is pending no more. -/
theorem Orderly.inTurn (orderly : Orderly order system saga) {opened : OpenTransaction}
    (openedMem : opened ∈ system.orders.openTransactions) {envelope : Envelope}
    {sourceTopic : Topic} (work : opened.work = .handleFact envelope sourceTopic)
    (ofOrder : envelope.correlationId = order) {fact : SagaFact}
    (isFact : sagaFact? envelope.fact = some fact) :
    ∀ earlier, Precedes earlier fact → ¬ saga.pending earlier := by
  intro earlier precedes waits
  have delivery := orderly.represents.orders.delivery envelope.eventId.topic
  have published := (orderly.represents.orders.underWay.delivered opened openedMem
    envelope sourceTopic work).1
  have isAt : (sagaReading order).At (system.outbox envelope.eventId.topic) fact
      envelope.eventId.position :=
    ⟨envelope.fact, published, read_eq_some.mpr ⟨ofOrder, isFact⟩⟩
  have sameTopic : earlier.topic = fact.topic := by
    unfold Precedes at precedes
    split at precedes <;> first | rfl | exact precedes.elim
  have ofTopic := sameTopic.trans (delivery.owned fact _ isAt)
  apply delivery.not_waiting_of_precedes precedes ofTopic isAt _ waits
  rintro other position below ⟨entry, isEntry, reads⟩
  rcases read_eq_some.mp reads with ⟨ofEntry, isOther⟩
  rcases orderly.inOrder opened openedMem envelope sourceTopic work ofOrder position below
    entry isEntry ofEntry with skipped | isProcessed
  · rw [isSkipped_iff, isOther] at skipped
    cases skipped
  · exact isProcessed

/-- The move of an orderly run reads what is there and handles facts in turn. -/
theorem Orderly.admits (orderly : Orderly order system saga)
    {label : OrderSaga.Label} (explained : Explains order system action label) :
    saga.Orderly label := by
  constructor
  · exact orderly.represents.fresh orderly.serialOn explained
  · rintro fact read rfl
    rcases explained.exists_handleFact with
      ⟨index, opened, envelope, sourceTopic, _, found, work, ofOrder, isFact, _⟩
    exact orderly.inTurn (List.mem_of_getElem? found) work ofOrder isFact

/-- Every serial run of the services is one of the saga by fresh reads, under
what the guard makes of its labels. -/
theorem exists_fresh {guard : Guard SagaSystem SagaAction}
    {admits : OrderSaga → OrderSaga.Label → Prop} {stock : StockCatalogue}
    {credits : CreditCatalogue}
    (serial : ∀ state action, guard state action →
      SagaSystem.Serial order state action)
    (admitted : ∀ state action saga label, Represents order state saga →
      guard state action → Explains order state action label → admits saga label)
    (reached : Reachable SagaSystem.step guard (SagaSystem.initial stock credits)
      system) :
    ∃ saga, Represents order system saga ∧
      Reached OrderSaga.Move (fun saga label => saga.Fresh label ∧ admits saga label)
        OrderSaga.initial saga := by
  have step : ∀ (state : SagaSystem) (action : SagaAction) (state' : SagaSystem)
      (saga : OrderSaga), Represents order state saga ∧ state.orders.SerialOn order →
        guard state action → SagaSystem.step state action = some state' →
          Matches OrderSaga.Move
            (fun state saga => Represents order state saga ∧ state.orders.SerialOn order)
            (Explains order) state action state' saga := by
    rintro state action state' saga ⟨represents, serialOn⟩ guarded stepped
    have serialOn' := serialOn_step represents (serial state action guarded) serialOn stepped
    rcases represents_step represents stepped with
      same | ⟨label, saga', explained, moved, after⟩
    · exact Or.inl ⟨same, serialOn'⟩
    · exact Or.inr ⟨label, saga', explained, moved, after, serialOn'⟩
  have admits' : ∀ (state : SagaSystem) (action : SagaAction) (saga : OrderSaga)
      (label : OrderSaga.Label),
      Represents order state saga ∧ state.orders.SerialOn order → guard state action →
        Explains order state action label → saga.Fresh label ∧ admits saga label := by
    rintro state action saga label ⟨represents, serialOn⟩ guarded explained
    exact ⟨represents.fresh serialOn explained,
      admitted state action saga label represents guarded explained⟩
  rcases exists_reached ⟨represents_initial order stock credits, .initial order⟩ step
    admits' reached with ⟨saga, represented, run⟩
  exact ⟨saga, represented.1, run⟩

/-- Every orderly run of the services is one of the saga by fresh reads, in turn,
under what the guard makes of its labels. -/
theorem exists_orderly_run {guard : Guard SagaSystem SagaAction}
    {admits : OrderSaga → OrderSaga.Label → Prop} {stock : StockCatalogue}
    {credits : CreditCatalogue}
    (isOrderly : ∀ state action, guard state action →
      SagaSystem.Orderly order state action)
    (admitted : ∀ state action saga label, Represents order state saga →
      guard state action → Explains order state action label → admits saga label)
    (reached : Reachable SagaSystem.step guard (SagaSystem.initial stock credits)
      system) :
    ∃ saga, Orderly order system saga ∧
      Reached OrderSaga.Move (fun saga label => saga.Orderly label ∧ admits saga label)
        OrderSaga.initial saga := by
  have admits' : ∀ (state : SagaSystem) (action : SagaAction) (saga : OrderSaga)
      (label : OrderSaga.Label), Orderly order state saga → guard state action →
        Explains order state action label → saga.Orderly label ∧ admits saga label := by
    intro state action saga label orderly guarded explained
    exact ⟨orderly.admits explained,
      admitted state action saga label orderly.represents guarded explained⟩
  exact exists_reached (Orderly.initial order stock credits)
    (fun state action _ _ orderly guarded stepped =>
      orderly.step (isOrderly state action guarded) stepped) admits' reached

/-- Every orderly run of the services is one of the saga by fresh reads, in turn. -/
theorem exists_orderly {stock : StockCatalogue} {credits : CreditCatalogue}
    (reached : Reachable SagaSystem.step (SagaSystem.Orderly order)
      (SagaSystem.initial stock credits) system) :
    ∃ saga, Orderly order system saga ∧
      Reached OrderSaga.Move OrderSaga.Orderly OrderSaga.initial saga := by
  have trivially : ∀ (state : SagaSystem) (action : SagaAction) (saga : OrderSaga)
      (label : OrderSaga.Label), Represents order state saga →
        SagaSystem.Orderly order state action → Explains order state action label →
          True := by
    intros
    trivial
  rcases exists_orderly_run (fun _ _ => id) trivially reached with ⟨saga, orderly, run⟩
  exact ⟨saga, orderly, run.weaken fun _ _ admitted => admitted.1⟩

end OrderToCash.Saga
