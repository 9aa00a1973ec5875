import OrderToCash.Saga.Represents

/-!
# Serial transactions and facts in order

Where Orders opens no second transaction on an order, a transaction still reads
what there is when it commits.  Where facts are delivered in the order of their
topic, none is handled before one that precedes it.  So the moves of the saga
follow the current version, and handle facts in order.
-/

namespace OrderToCash.Orders

open OrderToCash.Contracts
open OrderToCash.Kernel

/-- What an action does to the open transactions. -/
inductive OpenChange (system : OrdersSystem) (action : OrdersAction)
    (system' : OrdersSystem) : Prop
  | same (notCommit : ∀ index, action ≠ .commit index)
      (unchanged : system'.openTransactions = system.openTransactions)
  | ended (index : Nat) (opened : OpenTransaction)
      (ends : action = .commit index ∨ action = .rollback index)
      (found : system.openTransactions[index]? = some opened)
      (erased : system'.openTransactions = system.openTransactions.eraseIdx index)
  | begun (work : OrdersTransaction)
      (opens : system.opens? action = some work.order)
      (handles : ∀ envelope sourceTopic, work = .handleFact envelope sourceTopic →
        action = .beginFact envelope sourceTopic)
      (appended : system'.openTransactions =
        system.openTransactions ++ [⟨work, system.db⟩])
      (sameDb : system'.db = system.db)

theorem openChange {system system' : OrdersSystem} {action : OrdersAction}
    (stepped : OrdersSystem.step system action = some system') :
    OpenChange system action system' := by
  cases OrdersSystem.moves_of_step stepped with
  | place | readForCancel | notFound | beginStockRelease | markSent | markRejected | park
  | alreadyClaimed | claimDeadLetter => exact .same (by simp) rfl
  | beginFact =>
      refine .begun _ rfl ?_ rfl rfl
      rintro _ _ ⟨⟩
      rfl
  | cancelInTransaction index call waiting =>
      refine .begun (.cancelPlaced call.order) ?_ (by simp) rfl rfl
      simp [OrdersSystem.opens?, waiting, OrdersTransaction.order]
  | commit index opened _ found committed =>
      -- The work of a commit keeps the other transactions open.
      cases committed with
      | handleFact | cancelPlaced | onFirstPark =>
          exact .ended index opened (Or.inl rfl) found rfl
  | rollback index opened found => exact .ended index opened (Or.inr rfl) found rfl
  | beginFirstPark index parked waiting =>
      refine .begun (.onFirstPark parked.order _) ?_ (by simp) rfl rfl
      simp [OrdersSystem.opens?, waiting, OrdersTransaction.order]

/-- The transactions open on an order: at most one, and it reads what there is. -/
structure OrdersSystem.SerialOn (system : OrdersSystem) (order : OrderNumber) : Prop where
  one : system.openTransactions.countP (fun opened => opened.work.order = order) ≤ 1
  current : ∀ opened ∈ system.openTransactions, opened.work.order = order →
    opened.snapshot.version order = system.db.version order

/-- Erasing an entry that counts leaves one less. -/
theorem countP_eraseIdx {α : Type} {counts : α → Bool} {entries : List α} {index : Nat}
    {entry : α} (found : entries[index]? = some entry) (isCounted : counts entry = true) :
    (entries.eraseIdx index).countP counts + 1 = entries.countP counts := by
  rcases List.getElem?_eq_some_iff.mp found with ⟨inBounds, rfl⟩
  have perm := (List.getElem_cons_eraseIdx_perm inBounds).countP_eq counts
  rw [← perm, List.countP_cons_of_pos isCounted]

namespace OrdersSystem

variable {system system' : OrdersSystem} {action : OrdersAction} {order : OrderNumber}

theorem SerialOn.initial (order : OrderNumber) : OrdersSystem.initial.SerialOn order where
  one := Nat.zero_le 1
  current := by
    rintro opened ⟨⟩

/-- At most one transaction is open after a step that opens none beside another. -/
theorem SerialOn.one_step (serialOn : system.SerialOn order)
    (serial : system.opens? action = some order →
      ∀ opened ∈ system.openTransactions, opened.work.order ≠ order)
    (stepped : step system action = some system') :
    system'.openTransactions.countP (fun opened => opened.work.order = order) ≤ 1 := by
  cases openChange stepped with
  | same _ unchanged =>
      rw [unchanged]
      exact serialOn.one
  | ended index opened _ found erased =>
      rw [erased]
      exact Nat.le_trans (List.eraseIdx_sublist _ _).countP_le serialOn.one
  | begun work opens _ appended =>
      rw [appended, List.countP_append]
      by_cases ofOrder : work.order = order
      · have none : system.openTransactions.countP
            (fun opened => opened.work.order = order) = 0 := by
          rw [List.countP_eq_zero]
          intro opened openedMem
          simpa using serial (ofOrder ▸ opens) opened openedMem
        rw [none]
        simp [ofOrder]
      · simpa [ofOrder] using serialOn.one

/-- Once the one transaction on the order has ended, none is open. -/
theorem SerialOn.none_of_ended (serialOn : system.SerialOn order) {index : Nat}
    {opened : OpenTransaction} (found : system.openTransactions[index]? = some opened)
    (ofOrder : opened.work.order = order) :
    ∀ other ∈ system.openTransactions.eraseIdx index, other.work.order ≠ order := by
  have counted := @countP_eraseIdx _ (fun opened : OpenTransaction =>
    decide (opened.work.order = order)) _ _ _ found (decide_eq_true ofOrder)
  have one := serialOn.one
  have none : (system.openTransactions.eraseIdx index).countP
      (fun opened => decide (opened.work.order = order)) = 0 := by
    omega
  intro other otherMem
  simpa using List.countP_eq_zero.mp none other otherMem

end OrdersSystem

end OrderToCash.Orders

namespace OrderToCash.Saga

open OrderToCash.Billing
open OrderToCash.Contracts
open OrderToCash.Fulfillment
open OrderToCash.Kernel
open OrderToCash.Log
open OrderToCash.Orders
open OrderToCash.Transition

variable {order : OrderNumber} {system system' : SagaSystem} {saga saga' : OrderSaga}
  {action : SagaAction}

/-- A step that changes the version places the order, commits a transaction on
it or acts on a cancel request of it. -/
theorem version_step (represents : Represents order system saga)
    (stepped : SagaSystem.step system action = some system') :
    system'.orders.db.version order = system.orders.db.version order ∨
      saga.current.status = none ∧
          system'.orders.db.statusOf order ≠ system.orders.db.statusOf order ∨
        (∃ index opened, action = .orders (.commit index) ∧
          system.orders.openTransactions[index]? = some opened ∧
          opened.work.order = order) ∨
        ∃ index call, action = .orders (.actOnCancel index) ∧
          system.orders.cancelCalls[index]? = some call ∧ call.order = order := by
  have before := represents.orders.tables.current
  rcases represents_step represents stepped with
    same | ⟨label, saga', explained, moved, after⟩
  · exact Or.inl (same.orders.tables.current.symm.trans before)
  · have current := after.orders.tables.current
    cases moved with
    | place unknown =>
        refine Or.inr (Or.inl ⟨unknown, ?_⟩)
        have placed := congrArg Version.status current
        have absent := congrArg Version.status before
        rw [unknown] at absent
        simp only [OrdersDb.version] at placed absent
        rw [← placed, ← absent]
        simp
    | handle fact read | cancel read | firstPark read =>
        rcases explained.commits _ rfl with ⟨index, opened, rfl, found, ofOrder, _⟩
        exact Or.inr (Or.inr (Or.inl ⟨index, opened, rfl, found, ofOrder⟩))
    | beginRelease | beginReleaseAgain =>
        rcases explained.cancels rfl with ⟨index, call, rfl, found, ofOrder⟩
        exact Or.inr (Or.inr (Or.inr ⟨index, call, rfl, found, ofOrder⟩))
    | reserved | stockRejected | released | despatched | approved | creditRejected
    | issued | paid | paidReturned | returned =>
        exact Or.inl (current.symm.trans before)

/-- Serial transactions stay serial. -/
theorem serialOn_step (represents : Represents order system saga)
    (serial : SagaSystem.Serial order system action)
    (serialOn : system.orders.SerialOn order)
    (stepped : SagaSystem.step system action = some system') :
    system'.orders.SerialOn order := by
  rcases SagaSystem.step_eq_some.mp stepped with ⟨_, acted⟩
  cases action with
  | fulfillment action =>
      simp only [SagaSystem.act, Option.map_eq_some_iff] at acted
      rcases acted with ⟨fulfillment, _, rfl⟩
      exact serialOn
  | billing action =>
      simp only [SagaSystem.act, Option.map_eq_some_iff] at acted
      rcases acted with ⟨billing, _, rfl⟩
      exact serialOn
  | orders action =>
      have changed := version_step represents stepped
      simp only [SagaSystem.act, Option.map_eq_some_iff] at acted
      rcases acted with ⟨orders, ordersStepped, rfl⟩
      refine ⟨serialOn.one_step serial ordersStepped, ?_⟩
      have known := fun opened openedMem ofOrder =>
        (represents.orders.underWay.opened opened openedMem ofOrder).2
      change ∀ opened ∈ orders.openTransactions, _
      intro opened openedMem ofOrder
      cases openChange ordersStepped with
      | begun work opens _ appended sameDb =>
          rw [appended] at openedMem
          change _ = orders.db.version order
          rw [sameDb]
          rcases List.mem_append.mp openedMem with before | new
          · exact serialOn.current opened before ofOrder
          · rw [List.mem_singleton.mp new]
      | same notCommit unchanged =>
          rw [unchanged] at openedMem
          rcases changed with kept | ⟨unknown, _⟩ | ⟨index, _, isCommit, _⟩ |
            ⟨index, call, isAct, found, ofCall⟩
          · exact (serialOn.current opened openedMem ofOrder).trans kept.symm
          · exact absurd unknown (known opened openedMem ofOrder)
          · cases isCommit
            exact absurd rfl (notCommit index)
          · cases isAct
            exact absurd ofOrder
              (serial (by simp [OrdersSystem.opens?, found, ofCall]) opened openedMem)
      | ended index other ends found erased =>
          rw [erased] at openedMem
          have before := List.mem_of_mem_eraseIdx openedMem
          rcases changed with kept | ⟨unknown, _⟩ | ⟨committed, ended, isCommit, isEnded,
            ofEnded⟩ | ⟨committed, call, isAct, isCall, ofCall⟩
          · exact (serialOn.current opened before ofOrder).trans kept.symm
          · exact absurd unknown (known opened before ofOrder)
          · cases isCommit
            rcases ends with isThis | absurdity
            · cases isThis
              exact absurd ofOrder (serialOn.none_of_ended isEnded ofEnded opened openedMem)
            · cases absurdity
          · cases isAct
            rcases ends with absurdity | absurdity <;> cases absurdity

/-! ## Facts in order -/

/-- Every fact of the order that is being handled has those before it on its
topic handled. -/
def InOrder (order : OrderNumber) (system : SagaSystem) : Prop :=
  ∀ opened ∈ system.orders.openTransactions, ∀ envelope sourceTopic,
    opened.work = .handleFact envelope sourceTopic → envelope.correlationId = order →
      ∀ position < envelope.eventId.position,
        system.Settled order envelope.eventId.topic position

/-- Facts are only appended, and events only added. -/
theorem outbox_step (represents : Represents order system saga)
    (stepped : SagaSystem.step system action = some system')
    {topic : Topic} {position : Nat} {fact : Fact}
    (found : (system.outbox topic)[position]? = some fact) :
    (system'.outbox topic)[position]? = some fact := by
  have append : ∀ {before after new : List Fact}, after = before ++ new →
      before[position]? = some fact → after[position]? = some fact := by
    rintro before after new rfl before
    exact (List.getElem?_append_left (List.getElem?_eq_some_iff.mp before).1).trans before
  rcases SagaSystem.step_eq_some.mp stepped with ⟨_, acted⟩
  cases action with
  | orders action =>
      simp only [SagaSystem.act, Option.map_eq_some_iff] at acted
      rcases acted with ⟨orders, ordersStepped, rfl⟩
      rcases OrdersSystem.added ordersStepped with ⟨_, new, grown⟩
      cases topic with
      | orders => exact append grown found
      | fulfillment | billing => exact found
  | fulfillment action =>
      simp only [SagaSystem.act, Option.map_eq_some_iff] at acted
      rcases acted with ⟨fulfillment, serviceStepped, rfl⟩
      cases topic with
      | orders | billing => exact found
      | fulfillment =>
          rcases exists_reserve order system.orders.db with
            ⟨companyCode, lines, compatible⟩
          have arbitrated := represents.stock.arbitrated companyCode lines compatible
          rcases stock_step arbitrated serviceStepped with ⟨new, grown, _⟩
          exact append grown found
  | billing action =>
      simp only [SagaSystem.act, Option.map_eq_some_iff] at acted
      rcases acted with ⟨billing, serviceStepped, rfl⟩
      cases topic with
      | orders | fulfillment => exact found
      | billing =>
          rcases exists_hold order system.orders.db with ⟨hold, ofHold, compatible⟩
          have accounted := represents.credit.accounted hold ofHold compatible
          have inPhase := represents.credit.inPhase ofHold compatible
          rw [← ofHold] at inPhase
          rcases credit_step accounted inPhase serviceStepped with ⟨new, _, grown, _⟩
          exact append grown found

/-- Processed events stay processed. -/
theorem processed_step (stepped : SagaSystem.step system action = some system')
    {eventId : EventId} (isProcessed : eventId ∈ system.orders.db.processedEvents) :
    eventId ∈ system'.orders.db.processedEvents := by
  rcases SagaSystem.step_eq_some.mp stepped with ⟨_, acted⟩
  cases action with
  | orders action =>
      simp only [SagaSystem.act, Option.map_eq_some_iff] at acted
      rcases acted with ⟨orders, ordersStepped, rfl⟩
      exact (OrdersSystem.added ordersStepped).1 eventId isProcessed
  | fulfillment action =>
      simp only [SagaSystem.act, Option.map_eq_some_iff] at acted
      rcases acted with ⟨fulfillment, _, rfl⟩
      exact isProcessed
  | billing action =>
      simp only [SagaSystem.act, Option.map_eq_some_iff] at acted
      rcases acted with ⟨billing, _, rfl⟩
      exact isProcessed

/-- A settled place that is published stays settled. -/
theorem settled_step (represents : Represents order system saga)
    (stepped : SagaSystem.step system action = some system') {topic : Topic}
    {position : Nat} (published : position < (system.outbox topic).length)
    (settled : system.Settled order topic position) :
    system'.Settled order topic position := by
  have found := List.getElem?_eq_getElem published
  intro fact isFact ofOrder
  rw [outbox_step represents stepped found] at isFact
  rcases settled fact (found.trans isFact) ofOrder with skipped | isProcessed
  · exact Or.inl skipped
  · exact Or.inr (processed_step stepped isProcessed)

/-- The transactions open after a step were open, or are begun by it. -/
theorem opened_step (stepped : SagaSystem.step system action = some system')
    {opened : OpenTransaction} (openedMem : opened ∈ system'.orders.openTransactions) :
    opened ∈ system.orders.openTransactions ∨
      ∃ ordersAction, action = .orders ordersAction ∧
        ∀ envelope sourceTopic, opened.work = .handleFact envelope sourceTopic →
          ordersAction = .beginFact envelope sourceTopic := by
  rcases SagaSystem.step_eq_some.mp stepped with ⟨_, acted⟩
  cases action with
  | orders action =>
      simp only [SagaSystem.act, Option.map_eq_some_iff] at acted
      rcases acted with ⟨orders, ordersStepped, rfl⟩
      cases openChange ordersStepped with
      | same _ unchanged =>
          rw [← unchanged]
          exact Or.inl openedMem
      | ended index other _ _ erased =>
          change opened ∈ orders.openTransactions at openedMem
          rw [erased] at openedMem
          exact Or.inl (List.mem_of_mem_eraseIdx openedMem)
      | begun work _ handles appended =>
          change opened ∈ orders.openTransactions at openedMem
          rw [appended] at openedMem
          rcases List.mem_append.mp openedMem with before | new
          · exact Or.inl before
          · refine Or.inr ⟨action, rfl, fun envelope sourceTopic isWork => ?_⟩
            rw [List.mem_singleton.mp new] at isWork
            exact handles envelope sourceTopic isWork
  | fulfillment action =>
      simp only [SagaSystem.act, Option.map_eq_some_iff] at acted
      rcases acted with ⟨fulfillment, _, rfl⟩
      exact Or.inl openedMem
  | billing action =>
      simp only [SagaSystem.act, Option.map_eq_some_iff] at acted
      rcases acted with ⟨billing, _, rfl⟩
      exact Or.inl openedMem

end OrderToCash.Saga
