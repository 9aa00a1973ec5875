import OrderToCash.Orders.AggregateInvariant
import OrderToCash.Orders.Store
import OrderToCash.Transition.Run

/-!
# Placing orders

The place-order handler as a system of concurrent calls on one database.  A
call looks its `requestId` up, checks the stock, and then works inside one
transaction: it locks and advances the counter row, builds the order and
inserts it.  The counter row is held until the transaction ends, so at most one
call is past its allocation.  What a transaction has not committed is kept in
the call's own phase.
-/

namespace OrderToCash.Orders

open OrderToCash.Checked
open OrderToCash.Contracts
open OrderToCash.Kernel
open OrderToCash.Transition

/-- A client's idempotency key, as the unique column compares it. -/
structure RequestId where
  value : Nat
deriving DecidableEq, Repr

structure PlaceOrderLineCommand where
  productCode : String
  quantity : Nat
  unitPrice : Option Int
  lineDiscount : Option Int
deriving DecidableEq, Repr

structure PlaceOrderCommand where
  requestId : Option RequestId
  retailerCode : String
  companyCode : String
  currency : String
  lines : List PlaceOrderLineCommand
  orderDiscount : Option Int
  notes : Option String
deriving DecidableEq, Repr

structure PlaceOrderResult where
  orderId : UniqueId
  orderReference : OrderNumber
  status : OrderStatus
  currency : String
  initialAmount : Int
  initialDiscount : Int
  totalAmount : Int
deriving DecidableEq, Repr

structure ProductReference where
  description : String
  price : Money
deriving DecidableEq, Repr

/-- The reference tables; they do not change while orders are placed. -/
structure ReferenceData where
  retailers : String → Bool
  companies : String → Bool
  currencies : String → Bool
  products : String → Option ProductReference

structure StockAvailabilityLine where
  productCode : String
  requested : Nat
  available : Int
  sufficient : Bool
deriving DecidableEq, Repr

/-- What a call to the stock check ends in. -/
inductive StockAnswer
  | reply (available : Bool) (lines : List StockAvailabilityLine)
  | timeout
  | transportFailure
deriving DecidableEq, Repr

/-- The errors a placement ends in. -/
inductive PlaceOrderError
  | orderDiscountNotSupported (discount : Int) (currency : String)
  | referenceDataNotFound (field value : String)
  | stockUnavailable (shortages : List StockAvailabilityLine)
  | stockCheckTimeout
  | stockCheckTransport
  | invalidQuantity (value : Nat)
  | invalidBusinessReference (sequence : Nat)
  | order (error : OrderError)
  | duplicateEntry
  | lockContention
  | database
deriving DecidableEq, Repr

/-! ## Building the order -/

def toResult (orderId : UniqueId) (props : OrderProps) : PlaceOrderResult where
  orderId := orderId
  orderReference := props.orderReference
  status := .placed
  currency := props.currency
  initialAmount := props.initialAmount.amount
  initialDiscount := props.initialDiscount.amount
  totalAmount := props.totalAmount.amount

/-- The first check that fails names the field and the value that did not
resolve. -/
def assertReferenceDataComplete (reference : ReferenceData)
    (command : PlaceOrderCommand) : Except PlaceOrderError Unit :=
  if reference.retailers command.retailerCode = false then
    .error (.referenceDataNotFound "retailerCode" command.retailerCode)
  else if reference.companies command.companyCode = false then
    .error (.referenceDataNotFound "companyCode" command.companyCode)
  else if reference.currencies command.currency = false then
    .error (.referenceDataNotFound "currency" command.currency)
  else
    match command.lines.find? fun line =>
        (reference.products line.productCode).isNone with
    | some missing =>
        .error (.referenceDataNotFound "productCode" missing.productCode)
    | none => .ok ()

/-- A line of the command priced from the catalogue where it names no price. -/
def toLineInput (reference : ReferenceData) (currency : String)
    (line : PlaceOrderLineCommand) :
    Except PlaceOrderError PlaceOrderLineInput :=
  match reference.products line.productCode with
  | none =>
      .error (.referenceDataNotFound "productCode" line.productCode)
  | some product =>
      match Quantity.of line.quantity with
      | none => .error (.invalidQuantity line.quantity)
      | some quantity => do
          let unitPrice ←
            match line.unitPrice with
            | some amount =>
                (Money.of amount currency).mapError fun error =>
                  .order (.kernel error)
            | none => .ok product.price
          let lineDiscount ←
            (Money.of (line.lineDiscount.getD 0) currency).mapError fun error =>
              .order (.kernel error)
          .ok
            { productCode := line.productCode
              description := product.description
              quantity := quantity
              unitPrice := unitPrice
              lineDiscount := lineDiscount }

def toLineInputs (reference : ReferenceData) (currency : String) :
    List PlaceOrderLineCommand →
      Except PlaceOrderError (List PlaceOrderLineInput)
  | [] => .ok []
  | line :: rest => do
      let input ← toLineInput reference currency line
      let inputs ← toLineInputs reference currency rest
      .ok (input :: inputs)

/-- The aggregate of a command under an allocated reference. -/
def createOrder (reference : ReferenceData) (command : PlaceOrderCommand)
    (orderReference : OrderNumber) (firstLineId : Nat) :
    Except PlaceOrderError Order := do
  let lines ← toLineInputs reference command.currency command.lines
  (Order.place (fun index => ⟨firstLineId + index⟩)
    { orderReference := orderReference
      retailerCode := command.retailerCode
      companyCode := command.companyCode
      currency := command.currency
      lines := lines
      notes := command.notes }).mapError .order

/-! ## The database -/

/-- A row of `orders` with its items. -/
structure OrderRow where
  orderId : UniqueId
  requestId : Option RequestId
  props : OrderProps
deriving DecidableEq, Repr

namespace OrderRow

def sequence (row : OrderRow) : Nat := row.props.orderReference.sequence

def result (row : OrderRow) : PlaceOrderResult := toResult row.orderId row.props

end OrderRow

/-- The committed tables a placement reads and writes. -/
structure PlacementDb where
  orders : List OrderRow
  /-- `next_value` of the counter row, once it exists. -/
  sequence : Option Nat
  outbox : List Fact
deriving DecidableEq, Repr

namespace PlacementDb

def empty : PlacementDb := ⟨[], none, []⟩

/-- The greatest sequence among the stored references. -/
def maxSequence (db : PlacementDb) : Nat :=
  (db.orders.map OrderRow.sequence).foldr max 0

/-- The value the counter row is seeded with if it does not exist. -/
def startAt (db : PlacementDb) : Nat := db.maxSequence + 1

/-- The next reference the counter issues. -/
def nextSequence (db : PlacementDb) : Nat := db.sequence.getD db.startAt

def findByRequestId (db : PlacementDb) (requestId : RequestId) :
    Except OrderError (Option PlaceOrderResult) :=
  match db.orders.find? fun row => row.requestId = some requestId with
  | none => .ok none
  | some row =>
      (Order.reconstitute row.props).map fun order =>
        some (toResult row.orderId order.props)

/-- A unique key other than the request's already holds one of the values. -/
def HasOtherKey (db : PlacementDb) (row : OrderRow) : Prop :=
  ∃ other ∈ db.orders,
    other.orderId = row.orderId ∨ other.sequence = row.sequence

instance (db : PlacementDb) (row : OrderRow) : Decidable (db.HasOtherKey row) :=
  inferInstanceAs (Decidable (∃ other ∈ db.orders, _))

/-- A committed order carries the request's identifier. -/
def Claimed (db : PlacementDb) (requestId : RequestId) : Prop :=
  ∃ row ∈ db.orders, row.requestId = some requestId

instance (db : PlacementDb) (requestId : RequestId) :
    Decidable (db.Claimed requestId) :=
  inferInstanceAs (Decidable (∃ row ∈ db.orders, _))

/-- Write a saga's change of one order back, located by its reference. -/
def writeBack (db : PlacementDb) (order : OrderNumber) (saved : Order) :
    PlacementDb :=
  { db with
    orders := db.orders.map fun row =>
      if row.props.orderReference = order then
        { row with props := OrdersDb.updateOrderRow row.props saved.props }
      else
        row
    outbox := db.outbox ++ saved.domainEvents }

end PlacementDb

/-! ## Calls -/

/-- At most this many attempts of a unit of work. -/
def maxAttempts : Nat := 3

/-- Where a call stands; the attempts of its unit of work are counted from 1. -/
inductive CallPhase
  | arrived
  /-- Nothing found under its `requestId`; the reference data is complete. -/
  | resolved
  /-- The stock is available; its transaction is to be opened. -/
  | checked (attempt : Nat)
  /-- In a transaction that has read the greatest stored reference. -/
  | opened (attempt startAt : Nat)
  /-- Holding the counter row, advanced past its number. -/
  | allocated (attempt number : Nat)
  /-- Its order is inserted and its facts recorded. -/
  | inserted (attempt number : Nat) (row : OrderRow) (facts : List Fact)
  /-- Its insert lost against an order with its `requestId`. -/
  | lost (attempt number : Nat) (winner : PlaceOrderResult)
  | returned (result : PlaceOrderResult)
  | failed (error : PlaceOrderError)
deriving DecidableEq, Repr

namespace CallPhase

/-- The attempt of the transaction a call is in. -/
def attempt? : CallPhase → Option Nat
  | .opened attempt _ => some attempt
  | .allocated attempt _ => some attempt
  | .inserted attempt _ _ _ => some attempt
  | .lost attempt _ _ => some attempt
  | _ => none

/-- The number a call has allocated and not committed. -/
def number? : CallPhase → Option Nat
  | .allocated _ number => some number
  | .inserted _ number _ _ => some number
  | .lost _ number _ => some number
  | _ => none

def IsOver : CallPhase → Prop
  | .returned _ => True
  | .failed _ => True
  | _ => False

instance : ∀ phase : CallPhase, Decidable phase.IsOver
  | .returned _ => isTrue trivial
  | .failed _ => isTrue trivial
  | .arrived => isFalse id
  | .resolved => isFalse id
  | .checked _ => isFalse id
  | .opened _ _ => isFalse id
  | .allocated _ _ => isFalse id
  | .inserted _ _ _ _ => isFalse id
  | .lost _ _ _ => isFalse id

end CallPhase

structure PlacementSystem where
  db : PlacementDb
  /-- The call that holds the counter row. -/
  counterHolder : Option Nat
  phases : Nat → CallPhase

inductive PlacementAction
  | lookUp (call : Nat)
  | checkStock (call : Nat) (answer : StockAnswer)
  | openTransaction (call : Nat)
  | allocate (call : Nat)
  | insert (call : Nat) (orderId : UniqueId) (firstLineId : Nat)
  | commit (call : Nat)
  /-- A deadlock or a lock wait timeout ends the transaction. -/
  | lockError (call : Nat)
  /-- Any other database error. -/
  | fail (call : Nat)
  /-- A saga step, a cancellation or a dead letter of a stored order. -/
  | advance (order : OrderNumber) (operation : OrderOperation)
deriving DecidableEq, Repr

/-- The operations Orders' other transactions run; none changes lines. -/
def OrderOperation.KeepsLines : OrderOperation → Bool
  | .addLine _ _ => false
  | .removeLine _ => false
  | .changeLineQuantity _ _ => false
  | _ => true

namespace PlacementSystem

def initial (db : PlacementDb) : PlacementSystem where
  db := db
  counterHolder := none
  phases := fun _ => .arrived

def setPhase (system : PlacementSystem) (call : Nat) (phase : CallPhase) :
    PlacementSystem :=
  { system with phases := Function.update system.phases call phase }

/-- Roll the call's transaction back: its lock is released and nothing it wrote
remains. -/
def rollback (system : PlacementSystem) (call : Nat) (phase : CallPhase) :
    PlacementSystem :=
  { system with
    counterHolder :=
      if system.counterHolder = some call then none else system.counterHolder
    phases := Function.update system.phases call phase }

/-- Commit what the call has written. -/
def commitWith (system : PlacementSystem) (call : Nat) (db : PlacementDb)
    (result : PlaceOrderResult) : PlacementSystem where
  db := db
  counterHolder := none
  phases := Function.update system.phases call (.returned result)

variable (reference : ReferenceData) (commands : Nat → PlaceOrderCommand)

/-- The order discount, the fast path of a known `requestId`, and the reference
data, before anything is locked. -/
def lookUpPhase (db : PlacementDb) (command : PlaceOrderCommand) : CallPhase :=
  if command.orderDiscount.getD 0 ≠ 0 then
    .failed (.orderDiscountNotSupported (command.orderDiscount.getD 0)
      command.currency)
  else
    match (command.requestId.map db.findByRequestId).getD (.ok none) with
    | .error error => .failed (.order error)
    | .ok (some existing) => .returned existing
    | .ok none =>
        match assertReferenceDataComplete reference command with
        | .error error => .failed error
        | .ok () => .resolved

def checkStockPhase : StockAnswer → CallPhase
  | .reply true _ => .checked 1
  | .reply false lines =>
      .failed (.stockUnavailable (lines.filter fun line => !line.sufficient))
  | .timeout => .failed .stockCheckTimeout
  | .transportFailure => .failed .stockCheckTransport

/-- Lock the counter row, seeding it first if it does not exist, and advance
it; six digits is all a reference can carry. -/
def allocate (system : PlacementSystem) (call attempt startAt : Nat) :
    PlacementSystem :=
  let number := system.db.sequence.getD startAt
  if 0 < number ∧ number ≤ 999999 then
    { system with
      counterHolder := some call
      phases := Function.update system.phases call (.allocated attempt number) }
  else
    system.setPhase call (.failed (.invalidBusinessReference number))

/-- Insert the order.  Only a collision on the request's identifier is
resolved, to the reply of the order that carries it. -/
def insert (system : PlacementSystem) (call attempt number : Nat)
    (orderId : UniqueId) (firstLineId : Nat) : PlacementSystem :=
  let command := commands call
  match createOrder reference command ⟨number⟩ firstLineId with
  | .error error => system.rollback call (.failed error)
  | .ok order =>
      let row : OrderRow := ⟨orderId, command.requestId, order.props⟩
      if system.db.HasOtherKey row then
        system.rollback call (.failed .duplicateEntry)
      else
        match (command.requestId.map system.db.findByRequestId).getD
            (.ok none) with
        | .error error => system.rollback call (.failed (.order error))
        | .ok (some winner) => system.setPhase call (.lost attempt number winner)
        | .ok none =>
            system.setPhase call
              (.inserted attempt number row order.domainEvents)

/-- A retryable error runs the whole unit of work again, up to the last
attempt. -/
def lockError (system : PlacementSystem) (call attempt : Nat) :
    PlacementSystem :=
  if attempt < maxAttempts then
    system.rollback call (.checked (attempt + 1))
  else
    system.rollback call (.failed .lockContention)

def commit (system : PlacementSystem) (call : Nat) : Option PlacementSystem :=
  match system.phases call with
  | .inserted _ number row facts =>
      some
        (system.commitWith call
          { orders := system.db.orders ++ [row]
            sequence := some (number + 1)
            outbox := system.db.outbox ++ facts }
          row.result)
  | .lost _ number winner =>
      some
        (system.commitWith call
          { system.db with sequence := some (number + 1) } winner)
  | _ => none

/-- Another transaction of Orders loads an order, runs an operation and writes
it back. -/
def advance (system : PlacementSystem) (order : OrderNumber)
    (operation : OrderOperation) : Option PlacementSystem :=
  match system.db.orders.find? fun row => row.props.orderReference = order with
  | none => none
  | some row =>
      match Order.reconstitute row.props with
      | .error _ => none
      | .ok loaded =>
          match loaded.perform operation with
          | .error _ => none
          | .ok saved =>
              some { system with db := system.db.writeBack order saved }

def step : Step PlacementSystem PlacementAction := fun system action =>
  match action with
  | .lookUp call =>
      match system.phases call with
      | .arrived =>
          some (system.setPhase call
            (lookUpPhase reference system.db (commands call)))
      | _ => none
  | .checkStock call answer =>
      match system.phases call with
      | .resolved => some (system.setPhase call (checkStockPhase answer))
      | _ => none
  | .openTransaction call =>
      match system.phases call with
      | .checked attempt =>
          some (system.setPhase call (.opened attempt system.db.startAt))
      | _ => none
  | .allocate call =>
      match system.phases call with
      | .opened attempt startAt =>
          if system.counterHolder = none then
            some (system.allocate call attempt startAt)
          else
            none
      | _ => none
  | .insert call orderId firstLineId =>
      match system.phases call with
      | .allocated attempt number =>
          some (insert reference commands system call attempt number orderId
            firstLineId)
      | _ => none
  | .commit call => system.commit call
  | .lockError call =>
      ((system.phases call).attempt?).map (system.lockError call)
  | .fail call =>
      if (system.phases call).IsOver then
        none
      else
        some (system.rollback call (.failed .database))
  | .advance order operation =>
      if operation.KeepsLines then system.advance order operation else none

/-- Everything an enabled action does, with what enabled it. -/
inductive Moves (system : PlacementSystem) :
    PlacementAction → PlacementSystem → Prop
  | lookUp (call : Nat) (arrived : system.phases call = .arrived) :
      Moves system (.lookUp call)
        (system.setPhase call (lookUpPhase reference system.db (commands call)))
  | checkStock (call : Nat) (answer : StockAnswer)
      (resolved : system.phases call = .resolved) :
      Moves system (.checkStock call answer)
        (system.setPhase call (checkStockPhase answer))
  | openTransaction (call attempt : Nat)
      (checked : system.phases call = .checked attempt) :
      Moves system (.openTransaction call)
        (system.setPhase call (.opened attempt system.db.startAt))
  | allocate (call attempt startAt : Nat)
      (opened : system.phases call = .opened attempt startAt)
      (free : system.counterHolder = none) :
      Moves system (.allocate call) (system.allocate call attempt startAt)
  | insert (call attempt number : Nat) (orderId : UniqueId) (firstLineId : Nat)
      (allocated : system.phases call = .allocated attempt number) :
      Moves system (.insert call orderId firstLineId)
        (insert reference commands system call attempt number orderId
          firstLineId)
  | commitOrder (call attempt number : Nat) (row : OrderRow)
      (facts : List Fact)
      (inserted : system.phases call = .inserted attempt number row facts) :
      Moves system (.commit call)
        (system.commitWith call
          { orders := system.db.orders ++ [row]
            sequence := some (number + 1)
            outbox := system.db.outbox ++ facts }
          row.result)
  | commitReply (call attempt number : Nat) (winner : PlaceOrderResult)
      (lost : system.phases call = .lost attempt number winner) :
      Moves system (.commit call)
        (system.commitWith call
          { system.db with sequence := some (number + 1) } winner)
  | lockError (call attempt : Nat)
      (inTransaction : (system.phases call).attempt? = some attempt) :
      Moves system (.lockError call) (system.lockError call attempt)
  | fail (call : Nat) (running : ¬ (system.phases call).IsOver) :
      Moves system (.fail call) (system.rollback call (.failed .database))
  | advance (operation : OrderOperation) (row : OrderRow)
      (loaded saved : Order) (keepsLines : operation.KeepsLines = true)
      (stored : row ∈ system.db.orders)
      (rebuilt : Order.reconstitute row.props = .ok loaded)
      (performed : loaded.perform operation = .ok saved) :
      Moves system (.advance row.props.orderReference operation)
        { system with
          db := system.db.writeBack row.props.orderReference saved }

variable {reference commands}

theorem moves_of_step {system system' : PlacementSystem}
    {action : PlacementAction}
    (taken : step reference commands system action = some system') :
    Moves reference commands system action system' := by
  cases action with
  | lookUp call =>
      simp only [step] at taken
      split at taken
      · cases taken
        exact .lookUp call ‹_›
      · cases taken
  | checkStock call answer =>
      simp only [step] at taken
      split at taken
      · cases taken
        exact .checkStock call answer ‹_›
      · cases taken
  | openTransaction call =>
      simp only [step] at taken
      split at taken
      · cases taken
        exact .openTransaction call _ ‹_›
      · cases taken
  | allocate call =>
      simp only [step] at taken
      split at taken
      · split at taken
        · cases taken
          exact .allocate call _ _ ‹_› ‹_›
        · cases taken
      · cases taken
  | insert call orderId firstLineId =>
      simp only [step] at taken
      split at taken
      · cases taken
        exact .insert call _ _ orderId firstLineId ‹_›
      · cases taken
  | commit call =>
      simp only [step, commit] at taken
      split at taken
      · cases taken
        exact .commitOrder call _ _ _ _ ‹_›
      · cases taken
        exact .commitReply call _ _ _ ‹_›
      · cases taken
  | lockError call =>
      simp only [step, Option.map_eq_some_iff] at taken
      rcases taken with ⟨attempt, inTransaction, rfl⟩
      exact .lockError call attempt inTransaction
  | fail call =>
      simp only [step] at taken
      split at taken
      · cases taken
      · cases taken
        exact .fail call ‹_›
  | advance order operation =>
      simp only [step] at taken
      split at taken
      · rename_i keepsLines
        simp only [advance] at taken
        split at taken
        · cases taken
        · rename_i row found
          split at taken
          · cases taken
          · split at taken
            · cases taken
            · cases taken
              have sameReference : row.props.orderReference = order := by
                have selected := List.find?_some found
                exact of_decide_eq_true selected
              subst sameReference
              exact .advance operation row _ _ keepsLines
                (List.mem_of_find?_eq_some found) ‹_› ‹_›
      · cases taken

/-! ## What an insert leaves -/

theorem createOrder_reference {command : PlaceOrderCommand}
    {orderReference : OrderNumber} {firstLineId : Nat} {order : Order}
    (created : createOrder reference command orderReference firstLineId =
      .ok order) : order.props.orderReference = orderReference := by
  simp only [createOrder, Checked.bind_eq_ok_iff, Checked.mapError_eq_ok_iff]
    at created
  rcases created with ⟨lines, _, placed⟩
  exact (Order.place_eq_ok placed).1

/-- What an insert leaves the call in: gone, inserted under its own number, or
lost against a committed order with its `requestId`. -/
inductive Inserted (reference : ReferenceData)
    (commands : Nat → PlaceOrderCommand) (system : PlacementSystem)
    (call attempt number : Nat) : PlacementSystem → Prop
  | rolledBack (error : PlaceOrderError) :
      Inserted reference commands system call attempt number
        (system.rollback call (.failed error))
  | lost (requestId : RequestId) (winner : PlaceOrderResult)
      (requested : (commands call).requestId = some requestId)
      (found : system.db.findByRequestId requestId = .ok (some winner)) :
      Inserted reference commands system call attempt number
        (system.setPhase call (.lost attempt number winner))
  | inserted (orderId : UniqueId) (firstLineId : Nat) (order : Order)
      (created : createOrder reference (commands call) ⟨number⟩ firstLineId =
        .ok order)
      (unclaimed : ∀ requestId, (commands call).requestId = some requestId →
        system.db.findByRequestId requestId = .ok none) :
      Inserted reference commands system call attempt number
        (system.setPhase call
          (.inserted attempt number
            ⟨orderId, (commands call).requestId, order.props⟩
            order.domainEvents))

theorem inserted_of_insert (system : PlacementSystem) (call attempt number : Nat)
    (orderId : UniqueId) (firstLineId : Nat) :
    Inserted reference commands system call attempt number
      (insert reference commands system call attempt number orderId
        firstLineId) := by
  simp only [insert]
  split
  · exact .rolledBack _
  · rename_i order created
    split
    · exact .rolledBack _
    · cases requested : (commands call).requestId with
      | none =>
          simp only [Option.map_none, Option.getD_none]
          have inserted : Inserted reference commands system call attempt number _ :=
            .inserted orderId firstLineId order created (by simp [requested])
          rwa [requested] at inserted
      | some requestId =>
          simp only [Option.map_some, Option.getD_some]
          split
          · exact .rolledBack _
          · exact .lost requestId _ requested ‹_›
          · have inserted : Inserted reference commands system call attempt number _ :=
              .inserted orderId firstLineId order created (by
                intro other same
                rw [requested, Option.some.injEq] at same
                rwa [← same])
            rwa [requested] at inserted

theorem claimed_of_findByRequestId {db : PlacementDb} {requestId : RequestId}
    {winner : PlaceOrderResult}
    (found : db.findByRequestId requestId = .ok (some winner)) :
    db.Claimed requestId := by
  unfold PlacementDb.findByRequestId at found
  split at found
  · cases found
  · rename_i row selected
    have carries := List.find?_some selected
    exact ⟨row, List.mem_of_find?_eq_some selected, of_decide_eq_true carries⟩

/-! ## Phases after an action -/

@[simp]
theorem setPhase_db (system : PlacementSystem) (call : Nat)
    (phase : CallPhase) : (system.setPhase call phase).db = system.db :=
  rfl

@[simp]
theorem setPhase_counterHolder (system : PlacementSystem) (call : Nat)
    (phase : CallPhase) :
    (system.setPhase call phase).counterHolder = system.counterHolder :=
  rfl

@[simp]
theorem rollback_db (system : PlacementSystem) (call : Nat)
    (phase : CallPhase) : (system.rollback call phase).db = system.db :=
  rfl

@[simp]
theorem commitWith_db (system : PlacementSystem) (call : Nat)
    (db : PlacementDb) (result : PlaceOrderResult) :
    (system.commitWith call db result).db = db :=
  rfl

end PlacementSystem

end OrderToCash.Orders
