import OrderToCash.Billing.Service
import OrderToCash.Fulfillment.Service
import OrderToCash.Orders.Reaction
import OrderToCash.Orders.Transactions

/-!
# The saga as one system

Orders, Fulfillment and Billing side by side.  Each takes its own steps.  What
joins them is what Orders is delivered, a fact some service has appended to its
outbox, and what the other two are asked, the payload of a command row Orders
has stored.  Facts and requests are delivered any number of times and in any
order; a row is reported sent or rejected once its payload has been answered so.
-/

namespace OrderToCash.Orders

open OrderToCash.Kernel

/-- The order whose transaction an action opens. -/
def OrdersSystem.opens? (system : OrdersSystem) : OrdersAction → Option OrderNumber
  | .beginFact envelope _ => some envelope.correlationId
  | .actOnCancel index => system.cancelCalls[index]?.map CancelCall.order
  | .beginFirstPark index => system.firstParks[index]?.map ParkedDispatch.order
  | _ => none

end OrderToCash.Orders

namespace OrderToCash.Saga

open OrderToCash.Billing
open OrderToCash.Contracts
open OrderToCash.Fulfillment
open OrderToCash.Kernel
open OrderToCash.Orders
open OrderToCash.Transition

/-- The saga command a request to Fulfillment carries out; a replenishment is
none. -/
def stockCommand? : FulfillmentRequest → Option SagaCommandPayload
  | .stockReserve request => some (.stockReserve request)
  | .stockRelease request => some (.stockRelease request)
  | .despatchCreate request => some (.despatchCreate request)
  | .stockReplenish _ => none

/-- The saga command a request to Billing carries out; a payment is none. -/
def creditCommand? : BillingRequest → Option SagaCommandPayload
  | .creditHold request => some (.creditHold request)
  | .creditRelease request => some (.creditRelease request)
  | .invoiceIssue request => some (.invoiceIssue request)
  | .paymentRegister _ => none

/-- What the caller of a responder reads off its answer. -/
def rpcOutcome {ε ρ : Type} (code : ε → RpcErrorCode) :
    Except ε ρ → Contracts.RpcOutcome
  | .ok _ => .success
  | .error error => .failure (code error)

/-- An answer that ends the command for good without carrying it out. -/
def isTerminalFailure : Contracts.RpcOutcome → Bool
  | .success => false
  | .failure code => code.isTerminal

def isSuccess : Contracts.RpcOutcome → Bool
  | .success => true
  | .failure _ => false

structure SagaSystem where
  orders : OrdersSystem
  fulfillment : FulfillmentSystem
  billing : BillingSystem

inductive SagaAction
  | orders (action : OrdersAction)
  | fulfillment (action : FulfillmentAction)
  | billing (action : BillingAction)
deriving DecidableEq, Repr

namespace SagaSystem

def initial (stock : StockCatalogue) (credits : CreditCatalogue) : SagaSystem :=
  { orders := OrdersSystem.initial
    fulfillment := FulfillmentSystem.initial stock
    billing := BillingSystem.initial credits }

/-- The facts appended for a topic. -/
def outbox (system : SagaSystem) : Topic → List Fact
  | .orders => system.orders.db.outbox
  | .fulfillment => system.fulfillment.db.outbox
  | .billing => system.billing.db.outbox

/-- A fact is published under its place in the outbox of its topic. -/
def Published (system : SagaSystem) (envelope : Envelope) : Prop :=
  (system.outbox envelope.eventId.topic)[envelope.eventId.position]? =
    some envelope.fact

instance (system : SagaSystem) (envelope : Envelope) :
    Decidable (system.Published envelope) :=
  inferInstanceAs (Decidable (_ = _))

/-- A responder has answered the command with an outcome of a kind. -/
def Answered (system : SagaSystem) (payload : SagaCommandPayload)
    (ofKind : Contracts.RpcOutcome → Bool) : Prop :=
  (∃ answer ∈ system.fulfillment.answers,
      stockCommand? answer.request = some payload ∧
        ofKind (rpcOutcome FulfillmentError.rpcErrorCode answer.result) = true) ∨
    ∃ answer ∈ system.billing.answers,
      creditCommand? answer.request = some payload ∧
        ofKind (rpcOutcome BillingError.rpcErrorCode answer.result) = true

instance (system : SagaSystem) (payload : SagaCommandPayload)
    (ofKind : Contracts.RpcOutcome → Bool) :
    Decidable (system.Answered payload ofKind) :=
  inferInstanceAs (Decidable (_ ∨ _))

/-- What an action waits for in another service. -/
def Enabled (system : SagaSystem) : SagaAction → Prop
  | .orders (.beginFact envelope sourceTopic) =>
      system.Published envelope ∧ sourceTopic = envelope.eventId.topic
  | .orders (.markSent order kind) =>
      ∃ row ∈ system.orders.db.sagaCommands order kind,
        system.Answered row.payload isSuccess
  | .orders (.markRejected order kind _ _) =>
      ∃ row ∈ system.orders.db.sagaCommands order kind,
        system.Answered row.payload isTerminalFailure
  | .fulfillment (.receive request) =>
      ∀ payload ∈ stockCommand? request, system.orders.db.Owes payload
  | .billing (.receive request) =>
      ∀ payload ∈ creditCommand? request, system.orders.db.Owes payload
  | _ => True

instance (system : SagaSystem) (action : SagaAction) :
    Decidable (system.Enabled action) := by
  unfold Enabled
  split <;> infer_instance

/-- The step of the service an action belongs to. -/
def act (system : SagaSystem) : SagaAction → Option SagaSystem
  | .orders action =>
      (OrdersSystem.step system.orders action).map fun orders =>
        { system with orders := orders }
  | .fulfillment action =>
      (FulfillmentSystem.step system.fulfillment action).map fun fulfillment =>
        { system with fulfillment := fulfillment }
  | .billing action =>
      (BillingSystem.step system.billing action).map fun billing =>
        { system with billing := billing }

/-- One action of the saga. -/
def step : Step SagaSystem SagaAction
  | system, action => if system.Enabled action then system.act action else none

theorem step_eq_some {system system' : SagaSystem} {action : SagaAction} :
    step system action = some system' ↔
      system.Enabled action ∧ system.act action = some system' := by
  simp only [step, Option.ite_none_right_eq_some]

/-! ## Driving a run -/

/-- Orders begins to handle the fact at a place of a topic. -/
def deliver (topic : Topic) (position : Nat) (system : SagaSystem) : SagaAction :=
  match (system.outbox topic)[position]? with
  | some fact => .orders (.beginFact ⟨⟨topic, position⟩, fact⟩ topic)
  | none => .orders (.rollback position)

/-- The service a payload is for receives it. -/
def request : SagaCommandPayload → SagaAction
  | .stockReserve request => .fulfillment (.receive (.stockReserve request))
  | .stockRelease request => .fulfillment (.receive (.stockRelease request))
  | .despatchCreate request => .fulfillment (.receive (.despatchCreate request))
  | .creditHold request => .billing (.receive (.creditHold request))
  | .invoiceIssue request => .billing (.receive (.invoiceIssue request))
  | .creditRelease request => .billing (.receive (.creditRelease request))

/-- A command that is owed is sent to its service. -/
def dispatch (order : OrderNumber) (kind : SagaCommandKind) (system : SagaSystem) :
    SagaAction :=
  match system.orders.db.sagaCommands order kind with
  | some row => request row.payload
  | none => .orders (.markSent order kind)

/-! ## Conditions on a run -/

/-- Orders opens no transaction on the order while another is open. -/
def Serial (order : OrderNumber) : Guard SagaSystem SagaAction
  | system, .orders action =>
      system.orders.opens? action = some order →
        ∀ opened ∈ system.orders.openTransactions, opened.work.order ≠ order
  | _, _ => True

instance (order : OrderNumber) (system : SagaSystem) (action : SagaAction) :
    Decidable (Serial order system action) := by
  unfold Serial
  split <;> infer_instance

/-- The fact at a place of a topic awaits no handling: it is another order's,
or skipped, or processed. -/
def Settled (system : SagaSystem) (order : OrderNumber) (topic : Topic)
    (position : Nat) : Prop :=
  ∀ fact ∈ (system.outbox topic)[position]?, fact.orderReference = order →
    IsSkipped fact.eventType ∨
      (⟨topic, position⟩ : EventId) ∈ system.orders.db.processedEvents

instance (system : SagaSystem) (order : OrderNumber) (topic : Topic)
    (position : Nat) : Decidable (system.Settled order topic position) :=
  inferInstanceAs (Decidable (∀ fact ∈ (system.outbox topic)[position]?, _ → _))

/-- A fact of the order is delivered after every earlier one of its topic. -/
def Fifo (order : OrderNumber) : Guard SagaSystem SagaAction
  | system, .orders (.beginFact envelope _) =>
      envelope.correlationId = order →
        ∀ position < envelope.eventId.position,
          system.Settled order envelope.eventId.topic position
  | _, _ => True

instance (order : OrderNumber) (system : SagaSystem) (action : SagaAction) :
    Decidable (Fifo order system action) := by
  unfold Fifo
  split <;> infer_instance

/-- No fact of the order is unconsumed and none of its commands is pending or
parked. -/
structure Quiescent (system : SagaSystem) (order : OrderNumber) : Prop where
  facts : ∀ topic position, system.Settled order topic position
  commands : ∀ kind, ∀ row ∈ system.orders.db.sagaCommands order kind,
    ¬ row.IsOutstanding

end SagaSystem

end OrderToCash.Saga
