import OrderToCash.Orders.SagaCommands
import OrderToCash.Orders.StoredForm
import OrderToCash.Table.Upsert
import Mathlib.Logic.Function.Basic

/-!
# The Orders database

The tables the saga reads and writes, and the statements its repositories run
on them.  `findById` is a plain read; `save` of a loaded order is an UPDATE of
three columns of the row with that key, whatever the row holds by then;
`enqueue` inserts a command row or leaves the one that exists.  An order row
stands for what a load joins together: a new order is written in the form that the
tables give it back in.
-/

namespace OrderToCash.Orders

open OrderToCash.Contracts
open OrderToCash.Kernel
open OrderToCash.Table

inductive IgnoredFactMarker
  | unknownOrder
  | preconditionUnmet
deriving DecidableEq, Repr

/-- A row of `saga_ignored_facts`. -/
structure IgnoredFact where
  eventId : EventId
  eventType : EventType
  orderId : Option OrderNumber
  correlationId : OrderNumber
  observedStatus : Option OrderStatus
  expectedStatus : Option OrderStatus
  marker : IgnoredFactMarker
deriving DecidableEq, Repr

structure OrdersDb where
  orders : OrderNumber → Option OrderProps
  sagaCommands : OrderNumber → SagaCommandKind → Option SagaCommandRow
  processedEvents : List EventId
  ignoredFacts : List IgnoredFact
  outbox : List Fact

namespace OrdersDb

/-- No order has been placed yet. -/
def empty : OrdersDb :=
  { orders := fun _ => none
    sagaCommands := fun _ _ => none
    processedEvents := []
    ignoredFacts := []
    outbox := [] }

/-! ## Reads -/

/-- A plain read of the order row, rebuilt as an aggregate. -/
def findById (db : OrdersDb) (order : OrderNumber) :
    Except OrderError (Option Order) :=
  match db.orders order with
  | none => .ok none
  | some props => (Order.reconstitute props).map some

/-- Whether a release row of the order carries an operator's cancel request. -/
def hasAcceptedOperatorCancel (db : OrdersDb) (order : OrderNumber) : Bool :=
  [SagaCommandKind.creditRelease, SagaCommandKind.stockRelease].any fun kind =>
    match db.sagaCommands order kind with
    | none => false
    | some row => isOperatorCancelEnvelope row.triggeringEnvelope

/-! ## Writes -/

/-- The columns an item row's upsert sets. -/
def mergeOrderLine (existing line : OrderLine) : OrderLine :=
  { existing with
    description := line.description
    unitPrice := line.unitPrice
    quantity := line.quantity
    lineDiscount := line.lineDiscount }

/-- The UPDATE of an order row, located by its key alone, and the upsert of its
items. -/
def updateOrderRow (row saved : OrderProps) : OrderProps :=
  { row with
    status := saved.status
    cancellationReason := saved.cancellationReason
    notes := saved.notes
    lines := upsertAll OrderLine.id mergeOrderLine row.lines saved.lines }

/-- Write back a loaded order and record its facts. -/
def save (db : OrdersDb) (order : Order) : OrdersDb :=
  { db with
    orders := Function.update db.orders order.props.orderReference
      ((db.orders order.props.orderReference).map
        fun row => updateOrderRow row order.props)
    outbox := db.outbox ++ order.domainEvents }

/-- Write a new order in its stored form and record its facts, which tell of it as
it was placed. -/
def insert (db : OrdersDb) (order : Order) (form : StoredForm) : OrdersDb :=
  { db with
    orders := Function.update db.orders order.props.orderReference
      (some (form.row order.props))
    outbox := db.outbox ++ order.domainEvents }

/-- Replace one command row of an order. -/
def setSagaCommand (db : OrdersDb) (order : OrderNumber)
    (kind : SagaCommandKind) (row : SagaCommandRow) : OrdersDb :=
  { db with
    sagaCommands := Function.update db.sagaCommands order
      (Function.update (db.sagaCommands order) kind (some row)) }

/-- Insert a command row, or leave the one that exists untouched. -/
def enqueue (db : OrdersDb) (order : OrderNumber) (kind : SagaCommandKind)
    (row : SagaCommandRow) : OrdersDb :=
  match db.sagaCommands order kind with
  | none => db.setSagaCommand order kind row
  | some _ => db

def recordProcessed (db : OrdersDb) (eventId : EventId) : OrdersDb :=
  { db with processedEvents := eventId :: db.processedEvents }

def recordIgnored (db : OrdersDb) (ignored : IgnoredFact) : OrdersDb :=
  { db with ignoredFacts := db.ignoredFacts ++ [ignored] }

/-- The guard of every status update of a command row: a row reported sent is
never touched again. -/
def updateUnlessSent (db : OrdersDb) (order : OrderNumber)
    (kind : SagaCommandKind) (update : SagaCommandRow → SagaCommandRow) :
    Option OrdersDb :=
  match db.sagaCommands order kind with
  | none => none
  | some row =>
      if row.status = .sent then
        none
      else
        some (db.setSagaCommand order kind (update row))

def markSent (db : OrdersDb) (order : OrderNumber) (kind : SagaCommandKind) :
    Option OrdersDb :=
  db.updateUnlessSent order kind fun row => { row with status := .sent }

def markRejected (db : OrdersDb) (order : OrderNumber) (kind : SagaCommandKind)
    (attempts : Nat) (lastError : String) : Option OrdersDb :=
  db.updateUnlessSent order kind fun row =>
    { row with
      status := .rejected
      attempts := attempts
      lastError := some lastError }

def park (db : OrdersDb) (order : OrderNumber) (kind : SagaCommandKind)
    (attempts : Nat) (lastError : String) : Option OrdersDb :=
  db.updateUnlessSent order kind fun row =>
    { row with
      status := .parked
      attempts := attempts
      lastError := some lastError }

/-- The claim succeeds once in a row's life. -/
def claimDeadLetter (db : OrdersDb) (order : OrderNumber)
    (kind : SagaCommandKind) : Option OrdersDb :=
  match db.sagaCommands order kind with
  | none => none
  | some row =>
      if row.deadLettered then
        none
      else
        some (db.setSagaCommand order kind { row with deadLettered := true })

/-! ## What the writes change -/

/-- The committed status of an order. -/
def statusOf (db : OrdersDb) (order : OrderNumber) : Option OrderStatus :=
  (db.orders order).map OrderProps.status

/-- Every stored order carries the reference it is stored under. -/
def Keyed (db : OrdersDb) : Prop :=
  ∀ order row, db.orders order = some row → row.orderReference = order

@[simp]
theorem enqueue_orders (db : OrdersDb) (order : OrderNumber)
    (kind : SagaCommandKind) (row : SagaCommandRow) :
    (db.enqueue order kind row).orders = db.orders := by
  unfold enqueue
  cases db.sagaCommands order kind <;> rfl

@[simp]
theorem recordProcessed_orders (db : OrdersDb) (eventId : EventId) :
    (db.recordProcessed eventId).orders = db.orders :=
  rfl

@[simp]
theorem recordIgnored_orders (db : OrdersDb) (ignored : IgnoredFact) :
    (db.recordIgnored ignored).orders = db.orders :=
  rfl

theorem updateUnlessSent_orders {db db' : OrdersDb} {order : OrderNumber}
    {kind : SagaCommandKind} {update : SagaCommandRow → SagaCommandRow}
    (updated : db.updateUnlessSent order kind update = some db') :
    db'.orders = db.orders := by
  unfold updateUnlessSent at updated
  cases stored : db.sagaCommands order kind with
  | none => simp [stored] at updated
  | some row =>
      simp only [stored] at updated
      split at updated
      · cases updated
      · cases updated
        rfl

theorem claimDeadLetter_orders {db db' : OrdersDb} {order : OrderNumber}
    {kind : SagaCommandKind} (claimed : db.claimDeadLetter order kind = some db') :
    db'.orders = db.orders := by
  unfold claimDeadLetter at claimed
  cases stored : db.sagaCommands order kind with
  | none => simp [stored] at claimed
  | some row =>
      simp only [stored] at claimed
      split at claimed
      · cases claimed
      · cases claimed
        rfl

theorem save_orders (db : OrdersDb) (saved : Order) (order : OrderNumber) :
    (db.save saved).orders order =
      if order = saved.props.orderReference then
        (db.orders order).map fun row => updateOrderRow row saved.props
      else
        db.orders order := by
  by_cases same : order = saved.props.orderReference
  · subst same
    simp [save]
  · simp [save, same]

theorem save_statusOf (db : OrdersDb) (saved : Order) (order : OrderNumber) :
    (db.save saved).statusOf order =
      if order = saved.props.orderReference then
        (db.statusOf order).map fun _ => saved.props.status
      else
        db.statusOf order := by
  unfold statusOf
  rw [save_orders]
  split
  · cases db.orders order <;> rfl
  · rfl

theorem Keyed.save {db : OrdersDb} (keyed : db.Keyed) (saved : Order) :
    (db.save saved).Keyed := by
  intro order row stored
  rw [save_orders] at stored
  split at stored
  · rw [Option.map_eq_some_iff] at stored
    rcases stored with ⟨before, storedBefore, rfl⟩
    exact keyed order before storedBefore
  · exact keyed order row stored

end OrdersDb

end OrderToCash.Orders
