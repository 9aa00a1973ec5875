import OrderToCash.Fulfillment.Answers
import OrderToCash.Orders.CommandRows
import OrderToCash.Saga.Advance

/-!
# Commands that were attended to

A command row is reported sent or rejected once its payload has been answered
so, and Fulfillment's answers to an order are about its reservation.  Where no
command of an order is outstanding, each of them has been answered.
-/

namespace OrderToCash.Saga

open OrderToCash.Billing
open OrderToCash.Contracts
open OrderToCash.Fulfillment
open OrderToCash.Kernel
open OrderToCash.Orders
open OrderToCash.Transition

variable {order : OrderNumber} {system system' : SagaSystem} {saga saga' : OrderSaga}
  {action : SagaAction}

namespace SagaSystem

/-- A place no fact was appended at awaits no handling. -/
theorem quiescent_iff :
    system.Quiescent order ↔
      (∀ topic ∈ [Topic.orders, .fulfillment, .billing],
        ∀ position < (system.outbox topic).length,
          system.Settled order topic position) ∧
      ∀ kind ∈ [SagaCommandKind.stockReserve, .stockRelease, .despatchCreate,
          .creditHold, .invoiceIssue, .creditRelease],
        ∀ row ∈ system.orders.db.sagaCommands order kind, ¬ row.IsOutstanding := by
  constructor
  · rintro ⟨facts, commands⟩
    exact ⟨fun topic _ position _ => facts topic position, fun kind _ => commands kind⟩
  · rintro ⟨facts, commands⟩
    constructor
    · intro topic position fact isFact
      have published := (List.getElem?_eq_some_iff.mp isFact).1
      exact facts topic (by cases topic <;> simp) position published fact isFact
    · exact fun kind => commands kind (by cases kind <;> simp)

instance : Decidable (system.Quiescent order) :=
  decidable_of_iff _ quiescent_iff.symm

end SagaSystem

/-! ## Rows and answers -/

theorem fulfillment_answers {fulfillment fulfillment' : FulfillmentSystem}
    {action : FulfillmentAction}
    (stepped : FulfillmentSystem.step fulfillment action = some fulfillment') :
    ∀ answer ∈ fulfillment.answers, answer ∈ fulfillment'.answers := by
  intro answer answerMem
  cases FulfillmentSystem.step_change stepped with
  | received | located | aborted => exact answerMem
  | nothingToRelease | alreadyDespatched | nothingToDespatch | committed | refused =>
      exact List.mem_append_left _ answerMem

theorem billing_answers {billing billing' : BillingSystem} {action : BillingAction}
    (stepped : BillingSystem.step billing action = some billing') :
    ∀ answer ∈ billing.answers, answer ∈ billing'.answers := by
  intro answer answerMem
  cases BillingSystem.step_change stepped with
  | received | resolved | aborted => exact answerMem
  | alreadyInvoiced | alreadyRecorded | unknownInvoice | committed | refused =>
      exact List.mem_append_left _ answerMem

/-- What was answered stays answered. -/
theorem answered_step (stepped : SagaSystem.step system action = some system')
    {payload : SagaCommandPayload} {ofKind : Contracts.RpcOutcome → Bool}
    (answered : system.Answered payload ofKind) : system'.Answered payload ofKind := by
  rcases SagaSystem.step_eq_some.mp stepped with ⟨_, acted⟩
  cases action with
  | orders action =>
      simp only [SagaSystem.act, Option.map_eq_some_iff] at acted
      rcases acted with ⟨orders, _, rfl⟩
      exact answered
  | fulfillment action =>
      simp only [SagaSystem.act, Option.map_eq_some_iff] at acted
      rcases acted with ⟨fulfillment, serviceStepped, rfl⟩
      rcases answered with ⟨answer, answerMem, isAnswer⟩ | ofBilling
      · exact Or.inl ⟨answer, fulfillment_answers serviceStepped answer answerMem, isAnswer⟩
      · exact Or.inr ofBilling
  | billing action =>
      simp only [SagaSystem.act, Option.map_eq_some_iff] at acted
      rcases acted with ⟨billing, serviceStepped, rfl⟩
      rcases answered with ofFulfillment | ⟨answer, answerMem, isAnswer⟩
      · exact Or.inl ofFulfillment
      · exact Or.inr ⟨answer, billing_answers serviceStepped answer answerMem, isAnswer⟩

/-- A command of Fulfillment is none of Billing. -/
theorem creditCommand?_ne_stockCommand {request : FulfillmentRequest}
    {other : BillingRequest} {payload : SagaCommandPayload}
    (isStock : stockCommand? request = some payload) :
    creditCommand? other ≠ some payload := by
  intro isCredit
  cases request <;> cases isStock <;> cases other <;> cases isCredit

/-- A command of Fulfillment is answered for the request that carries it. -/
theorem stockAnswer_of_answered {request : FulfillmentRequest} {payload : SagaCommandPayload}
    {ofKind : Contracts.RpcOutcome → Bool} (isStock : stockCommand? request = some payload)
    (answered : system.Answered payload ofKind) :
    ∃ answer ∈ system.fulfillment.answers, answer.request = request ∧
      ofKind (rpcOutcome FulfillmentError.rpcErrorCode answer.result) = true := by
  rcases answered with ⟨answer, answerMem, isPayload, isOutcome⟩ | ⟨answer, _, isPayload, _⟩
  · refine ⟨answer, answerMem, ?_, isOutcome⟩
    generalize answer.request = other at isPayload
    cases request <;> cases isStock <;> cases other <;> cases isPayload <;> rfl
  · exact absurd isPayload (creditCommand?_ne_stockCommand isStock)

/-- A command of Billing is answered for the request that carries it. -/
theorem creditAnswer_of_answered {request : BillingRequest} {payload : SagaCommandPayload}
    {ofKind : Contracts.RpcOutcome → Bool} (isCredit : creditCommand? request = some payload)
    (answered : system.Answered payload ofKind) :
    ∃ answer ∈ system.billing.answers, answer.request = request ∧
      ofKind (rpcOutcome BillingError.rpcErrorCode answer.result) = true := by
  rcases answered with ⟨answer, _, isPayload, _⟩ | ⟨answer, answerMem, isPayload, isOutcome⟩
  · exact absurd isCredit (creditCommand?_ne_stockCommand isPayload)
  · refine ⟨answer, answerMem, ?_, isOutcome⟩
    generalize answer.request = other at isPayload
    cases request <;> cases isCredit <;> cases other <;> cases isPayload <;> rfl

/-- The answers a row is reported upon. -/
def reportedAs : SagaCommandStatus → Option (Contracts.RpcOutcome → Bool)
  | .sent => some isSuccess
  | .rejected => some isTerminalFailure
  | .pending | .parked => none

/-- The rows of an order are reported as their payloads were answered. -/
def Reported (order : OrderNumber) (system : SagaSystem) : Prop :=
  ∀ kind row, system.orders.db.sagaCommands order kind = some row →
    ∀ ofKind ∈ reportedAs row.status, system.Answered row.payload ofKind

theorem Reported.initial (order : OrderNumber) (stock : StockCatalogue)
    (credits : CreditCatalogue) : Reported order (SagaSystem.initial stock credits) := by
  rintro kind row ⟨⟩

theorem Reported.step (reported : Reported order system)
    (stepped : SagaSystem.step system action = some system') :
    Reported order system' := by
  intro kind row stored ofKind isReported
  apply answered_step stepped
  rcases serviceStep_orders stepped with same | ⟨ordersAction, rfl, ordersStepped⟩
  · rw [same] at stored
    exact reported kind row stored ofKind isReported
  · have enabled := (SagaSystem.step_eq_some.mp stepped).1
    cases OrdersSystem.row_change ordersStepped stored with
    | kept before isStored payload status =>
        rw [payload]
        exact reported kind before isStored ofKind (status ▸ isReported)
    | enqueued absent enqueues =>
        rw [enqueues.pending] at isReported
        cases isReported
    | sent before isStored payload status | rejected _ _ before isStored payload status =>
        rcases enabled with ⟨other, otherStored, answered⟩
        cases Option.some.inj (isStored.symm.trans otherStored)
        rw [status] at isReported
        cases isReported
        rw [payload]
        exact answered
    | parked attempts lastError before isStored payload status =>
        rw [status] at isReported
        cases isReported

/-- A row that is not outstanding was answered. -/
theorem Reported.answered (reported : Reported order system) {kind : SagaCommandKind}
    {row : SagaCommandRow}
    (stored : system.orders.db.sagaCommands order kind = some row)
    (reached : ¬ row.IsOutstanding) :
    ∃ ofKind, reportedAs row.status = some ofKind ∧ system.Answered row.payload ofKind := by
  cases status : row.status with
  | pending => exact absurd (Or.inl status) reached
  | parked => exact absurd (Or.inr status) reached
  | sent | rejected => exact ⟨_, rfl, reported kind row stored _ (by rw [status]; rfl)⟩

/-- The row of a command that is owed. -/
theorem Represents.row_of_owed (represents : Represents order system saga)
    {kind : SagaCommandKind} (owed : saga.owed kind) :
    ∃ row, system.orders.db.sagaCommands order kind = some row ∧
      row.payload.order = order ∧ row.payload.kind = kind := by
  have stored := (represents.orders.tables.owed kind).mp owed
  rcases Option.ne_none_iff_exists'.mp stored with ⟨⟨payload, trigger⟩, isRecord⟩
  have ofKind := represents.orders.tables.rows kind payload trigger isRecord
  rcases Option.map_eq_some_iff.mp isRecord with ⟨row, isRow, same⟩
  cases same
  exact ⟨row, isRow, ofKind⟩

/-! ## The answers of Fulfillment -/

/-- A command that ends a reservation. -/
def EndsReservation (kind : SagaCommandKind) : Prop :=
  kind = .stockRelease ∨ kind = .despatchCreate

/-- Such a command is owed for a reservation that was handled. -/
theorem OrderSaga.Coherent.reserved_of_owed (coherent : saga.Coherent)
    {kind : SagaCommandKind} (ends : EndsReservation kind) (owed : saga.owed kind) :
    saga.handled .stockReserved := by
  rcases ends with rfl | rfl
  · rcases coherent.emissions.releaseOwed.mp owed with ⟨reason, releaseFor⟩
    cases reason with
    | orderCancelled => exact (coherent.commands.releaseRequested releaseFor).2
    | creditRejected =>
        apply coherent.commands.creditHold
        apply coherent.commands.creditRejected
        exact Or.inr (coherent.commands.releaseRejected releaseFor)
  · exact coherent.reserved_of_approved (Or.inr (coherent.commands.despatchCreate owed))

/-- A request that settles the order carries a command that ends its
reservation. -/
theorem command_of_settles {request : FulfillmentRequest}
    (settles : request.Settles order) :
    ∃ payload, stockCommand? request = some payload ∧ payload.order = order ∧
      EndsReservation payload.kind := by
  cases request with
  | stockRelease release => exact ⟨.stockRelease release, rfl, settles, Or.inl rfl⟩
  | despatchCreate despatch => exact ⟨.despatchCreate despatch, rfl, settles, Or.inr rfl⟩
  | stockReserve | stockReplenish => exact settles.elim

/-- A release or a despatch is asked of a reservation only. -/
theorem Represents.settlesReserved (represents : Represents order system saga)
    {request : FulfillmentRequest}
    (owes : ∀ payload ∈ stockCommand? request, system.orders.db.Owes payload) :
    FulfillmentSystem.SettlesReserved order system.fulfillment request := by
  intro settles
  rcases command_of_settles settles with ⟨payload, isPayload, ofOrder, ends⟩
  have owed := represents.orders.tables.owed_of_owes ofOrder (owes payload isPayload)
  have reserved := represents.coherent.reserved_of_owed ends owed
  rw [← represents.stock.phase]
  exact represents.coherent.emissions.reserved.mp (Or.inr reserved)

theorem stockAnswered_step (represents : Represents order system saga)
    (answered : system.fulfillment.Answered order)
    (stepped : SagaSystem.step system action = some system') :
    system'.fulfillment.Answered order := by
  rcases SagaSystem.step_eq_some.mp stepped with ⟨enabled, acted⟩
  cases action with
  | orders action =>
      simp only [SagaSystem.act, Option.map_eq_some_iff] at acted
      rcases acted with ⟨orders, _, rfl⟩
      exact answered
  | billing action =>
      simp only [SagaSystem.act, Option.map_eq_some_iff] at acted
      rcases acted with ⟨billing, _, rfl⟩
      exact answered
  | fulfillment action =>
      simp only [SagaSystem.act, Option.map_eq_some_iff] at acted
      rcases acted with ⟨fulfillment, serviceStepped, rfl⟩
      rcases exists_reserve order system.orders.db with ⟨companyCode, lines, compatible⟩
      apply answered.step (represents.stock.arbitrated companyCode lines compatible)
        _ _ serviceStepped
      · intro call callMem
        exact represents.settlesReserved (represents.stock.requested call callMem)
      · rintro request rfl
        exact represents.settlesReserved enabled

/-- In every reachable state rows are reported as they were answered, and
Fulfillment's answers are about the reservation. -/
theorem attended_of_reachable {guard : Guard SagaSystem SagaAction}
    {stock : StockCatalogue} {credits : CreditCatalogue}
    (reached : Reachable SagaSystem.step guard (SagaSystem.initial stock credits)
      system) : Reported order system ∧ system.fulfillment.Answered order := by
  induction reached with
  | refl =>
      exact ⟨.initial order stock credits,
        FulfillmentSystem.answered_initial stock order⟩
  | tail path admitted stepped inductionHypothesis =>
      rcases inductionHypothesis with ⟨reported, answered⟩
      rcases exists_represented order path with ⟨saga, represents⟩
      exact ⟨reported.step stepped, stockAnswered_step represents answered stepped⟩

/-- Where no command is outstanding, one that ends the reservation has ended it. -/
theorem Represents.not_reserved (represents : Represents order system saga)
    (reported : Reported order system) (answered : system.fulfillment.Answered order)
    (quiet : ∀ kind, ∀ row ∈ system.orders.db.sagaCommands order kind,
      ¬ row.IsOutstanding)
    {kind : SagaCommandKind} (ends : EndsReservation kind) (owed : saga.owed kind) :
    saga.stock ≠ some .reserved := by
  rcases represents.row_of_owed owed with ⟨row, stored, ofOrder, isKind⟩
  rcases reported.answered stored (quiet kind row stored) with ⟨ofKind, _, wasAnswered⟩
  rw [represents.stock.phase]
  generalize row.payload = payload at ofOrder isKind wasAnswered
  have settled : ∀ request, stockCommand? request = some payload →
      request.Settles order →
        (system.fulfillment.db.orderStock order).phase ≠ some .reserved := by
    intro request isStock settles
    rcases stockAnswer_of_answered isStock wasAnswered with ⟨answer, answerMem, same, _⟩
    rw [← same] at settles
    exact (answered.settled answer answerMem settles).2
  cases payload with
  | stockRelease release => exact settled (.stockRelease release) rfl ofOrder
  | despatchCreate despatch => exact settled (.despatchCreate despatch) rfl ofOrder
  | stockReserve | creditHold | invoiceIssue | creditRelease =>
      subst isKind
      rcases ends with absurdity | absurdity <;> cases absurdity

end OrderToCash.Saga
