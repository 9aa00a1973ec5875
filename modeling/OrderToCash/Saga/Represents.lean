import OrderToCash.Saga.CreditSide
import OrderToCash.Saga.OrdersMoves
import OrderToCash.Saga.StockSide

/-!
# The services run the saga

Every reachable state of the services is represented, for each order, by a state
of its saga: Orders by its tables and what is under way there, the reservation
and the credit by their phases, and the facts on their way by the topics.  Every
action of a service leaves that state alone or makes one move of it.
-/

namespace OrderToCash.Orders

open OrderToCash.Contracts
open OrderToCash.Kernel

namespace OrdersDb

/-- The recorded commands stay. -/
def CommandsStay (db db' : OrdersDb) : Prop :=
  ∀ order kind record, db.commands order kind = some record →
    db'.commands order kind = some record

variable {db db' : OrdersDb}

theorem CommandsStay.of_eq (same : ∀ order, db'.commands order = db.commands order) :
    db.CommandsStay db' := by
  intro order kind record stored
  rwa [same order]

theorem CommandsStay.enqueue (order : OrderNumber) (kind : SagaCommandKind)
    (row : SagaCommandRow) : db.CommandsStay (db.enqueue order kind row) := by
  intro other otherKind record stored
  rw [enqueue_commands, if_neg]
  · exact stored
  · rintro ⟨_, absent⟩
    rw [absent] at stored
    cases stored

theorem CommandsStay.applyWrites (writes : List OrdersWrite) :
    db.CommandsStay (applyWrites db writes) := by
  induction writes generalizing db with
  | nil => exact fun order kind record => id
  | cons write rest inductionHypothesis =>
      intro order kind record stored
      apply inductionHypothesis
      cases write with
      | save saved => exact stored
      | enqueue other otherKind row =>
          exact CommandsStay.enqueue other otherKind row _ _ _ stored
      | recordIgnored ignored => exact stored

theorem Owes.of_stay {payload : SagaCommandPayload} (owes : db.Owes payload)
    (stay : db.CommandsStay db') : db'.Owes payload := by
  rcases owes_iff.mp owes with ⟨trigger, stored⟩
  exact owes_iff.mpr ⟨trigger, stay _ _ _ stored⟩

/-- At most one payload is owed of a kind. -/
theorem Owes.eq {payload other : SagaCommandPayload} (owes : db.Owes payload)
    (otherOwes : db.Owes other) (sameOrder : payload.order = other.order)
    (sameKind : payload.kind = other.kind) : payload = other := by
  unfold Owes at owes otherOwes
  rw [sameOrder, sameKind, otherOwes] at owes
  exact (Option.some.inj owes).symm

end OrdersDb

/-- No action of Orders takes a recorded command back. -/
theorem OrdersSystem.commands_stay {system system' : OrdersSystem}
    {action : OrdersAction} (stepped : step system action = some system') :
    system.db.CommandsStay system'.db := by
  cases dbChange stepped with
  | same unchanged =>
      rw [unchanged]
      exact fun order kind record => id
  | placed created form written =>
      rw [written]
      exact fun order kind record => id
  | wrote writes written =>
      rw [written]
      exact .applyWrites writes
  | processed eventId writes written =>
      rw [written]
      intro order kind record stored
      apply OrdersDb.CommandsStay.applyWrites
      exact stored
  | updated order kind stored row isStored sameRecord written =>
      rw [written]
      exact .of_eq fun other =>
        OrdersDb.setSagaCommand_commands other isStored sameRecord

end OrderToCash.Orders

namespace OrderToCash.Saga

open OrderToCash.Billing
open OrderToCash.Contracts
open OrderToCash.Fulfillment
open OrderToCash.Kernel
open OrderToCash.Log
open OrderToCash.Orders
open OrderToCash.Transition

/-- The saga's account of Fulfillment: whatever it was asked for the order is
owed, and its one reservation is arbitrated. -/
structure StockView (order : OrderNumber) (system : SagaSystem) (saga : OrderSaga) :
    Prop where
  requested : ∀ call ∈ system.fulfillment.calls,
    ∀ payload ∈ stockCommand? call.request, system.orders.db.Owes payload
  arbitrated : ∀ companyCode lines,
    (∀ request, request.orderReference = order →
      system.orders.db.Owes (.stockReserve request) →
        request.companyCode = companyCode ∧ request.lines = lines) →
      system.fulfillment.Arbitrated order companyCode lines
  phase : saga.stock = (system.fulfillment.db.orderStock order).phase

/-- The saga's account of Billing: whatever it was asked for the order is owed,
and its one hold is accounted for. -/
structure CreditView (order : OrderNumber) (system : SagaSystem) (saga : OrderSaga) :
    Prop where
  requested : ∀ call ∈ system.billing.calls,
    ∀ payload ∈ creditCommand? call.request, system.orders.db.Owes payload
  accounted : ∀ hold : CreditHoldRequest, hold.orderReference = order →
    (∀ request, request.orderReference = order →
      system.orders.db.Owes (.creditHold request) → request = hold) →
      system.billing.Accounted hold
  marks : (system.billing.db.orderCredit order).facts.filterMap markOf? =
    (OrderCredit.tracesOf 0 saga.credit).marks

/-- A state of the saga of an order represents the services. -/
structure Represents (order : OrderNumber) (system : SagaSystem) (saga : OrderSaga) :
    Prop where
  coherent : saga.Coherent
  orders : OrdersView order system saga
  stock : StockView order system saga
  credit : CreditView order system saga

theorem represents_initial (order : OrderNumber) (stock : StockCatalogue)
    (credits : CreditCatalogue) :
    Represents order (SagaSystem.initial stock credits) OrderSaga.initial where
  coherent := .initial
  orders :=
    { tables := .initial order
      underWay := .initial order _
      agreed := by
        simp [OrderSaga.initial, SagaSystem.initial, OrdersSystem.initial]
      delivery := by
        apply Delivery.nil
        intro topic
        cases topic <;> rfl }
  stock :=
    { requested := by
        rintro call ⟨⟩
      arbitrated := fun companyCode lines _ =>
        FulfillmentSystem.arbitrated_initial stock order companyCode lines
      phase := rfl }
  credit :=
    { requested := by
        rintro call ⟨⟩
      accounted := fun hold _ _ => BillingSystem.accounted_initial credits hold
      marks := rfl }

variable {order : OrderNumber} {system : SagaSystem} {saga saga' : OrderSaga}

/-! ## The steps of Orders -/

/-- Orders emits no other service's facts. -/
theorem topic_of_explains {action : OrdersAction} {label : OrderSaga.Label}
    {fact : SagaFact} (explained : Explains order system (.orders action) label)
    (emits : label.fact? = some fact) : fact.topic = .orders := by
  by_contra notOrders
  have appended : system.appended (.orders action) fact.topic = [] := by
    cases stepped : OrdersSystem.step system.orders action with
    | none => simp [SagaSystem.appended, SagaSystem.act, stepped]
    | some orders =>
        simp [SagaSystem.appended, SagaSystem.act, stepped, outbox_of_orders notOrders]
  have factMem := explained.facts fact emits
  rw [appended] at factMem
  cases factMem

/-- A move Orders makes is neither the reservation's nor the credit's. -/
theorem phases_of_orders {action : OrdersAction} {label : OrderSaga.Label}
    (explained : Explains order system (.orders action) label)
    (moved : saga.Move label saga') :
    saga'.stock = saga.stock ∧ saga'.credit = saga.credit := by
  have topic := fun {fact} => @topic_of_explains _ _ _ _ fact explained
  cases moved with
  | handle fact read reaction rest =>
      exact ⟨OrderSaga.carryOut_stock _ _, OrderSaga.carryOut_credit _ _⟩
  | place | cancel | firstPark | beginRelease | beginReleaseAgain => exact ⟨rfl, rfl⟩
  | reserved | stockRejected | released | despatched | approved | creditRejected
  | issued | paid | paidReturned | returned => cases topic rfl

theorem represents_orders (represents : Represents order system saga)
    {action : OrdersAction} {orders : OrdersSystem}
    (enabled : system.Enabled (.orders action))
    (stepped : OrdersSystem.step system.orders action = some orders) :
    Matches OrderSaga.Move (Represents order) (Explains order) system (.orders action)
      { system with orders := orders } saga := by
  have stay := OrdersSystem.commands_stay stepped
  have stockView : ∀ saga' : OrderSaga, saga'.stock = saga.stock →
      StockView order { system with orders := orders } saga' := by
    intro saga' same
    constructor
    · intro call callMem payload isPayload
      exact (represents.stock.requested call callMem payload isPayload).of_stay stay
    · intro companyCode lines compatible
      apply represents.stock.arbitrated companyCode lines
      exact fun request ofOrder owes => compatible request ofOrder (owes.of_stay stay)
    · rw [same]
      exact represents.stock.phase
  have creditView : ∀ saga' : OrderSaga, saga'.credit = saga.credit →
      CreditView order { system with orders := orders } saga' := by
    intro saga' same
    constructor
    · intro call callMem payload isPayload
      exact (represents.credit.requested call callMem payload isPayload).of_stay stay
    · intro hold ofOrder compatible
      apply represents.credit.accounted hold ofOrder
      exact fun request ofOrder owes => compatible request ofOrder (owes.of_stay stay)
    · rw [same]
      exact represents.credit.marks
  rcases orders_step represents.orders represents.coherent enabled stepped with
    view | ⟨label, saga', explained, moved, view⟩
  · exact Or.inl ⟨represents.coherent, view, stockView saga rfl, creditView saga rfl⟩
  · rcases phases_of_orders explained moved with ⟨stock, credit⟩
    exact Or.inr ⟨label, saga', explained, moved, represents.coherent.move moved, view,
      stockView saga' stock, creditView saga' credit⟩

/-! ## The steps of the other services -/

/-- Facts that another service appends. -/
theorem OrdersView.append (view : OrdersView order system saga) {system' : SagaSystem}
    (orders : system'.orders = system.orders) {topic : Topic} {new : List Fact}
    (grown : system'.outbox topic = system.outbox topic ++ new)
    (others : ∀ other, other ≠ topic → system'.outbox other = system.outbox other)
    (mayLog : MayLog (sagaReading order) (fun fact => fact.topic = topic) saga.handled
      saga.pending (new.filterMap (sagaReading order).read))
    (ofTopic : ∀ fact ∈ new.filterMap (sagaReading order).read, fact.topic = topic)
    (same : ∀ fact, saga'.pending fact ↔
      fact ∈ new.filterMap (sagaReading order).read ∨ saga.pending fact)
    (current : saga'.current = saga.current) (past : saga'.past = saga.past)
    (owed : saga'.owed = saga.owed) (releaseFor : saga'.releaseFor = saga.releaseFor)
    (agreed : saga'.agreed = saga.agreed) (handled : saga'.handled = saga.handled) :
    OrdersView order system' saga' where
  tables := by
    rw [orders]
    exact view.tables.congr view.tables.keyed rfl rfl current owed releaseFor
  underWay := by
    rw [orders]
    apply view.underWay.mono
    · intro other position fact found
      by_cases here : other = topic
      · subst here
        rw [grown]
        exact (List.getElem?_append_left
          (List.getElem?_eq_some_iff.mp found).1).trans found
      · rwa [others other here]
    · rw [past]
      exact fun version => id
    · rw [current]
      exact id
  agreed := by
    rw [agreed, orders]
    exact view.agreed
  delivery := by
    rw [handled, orders]
    exact view.delivery.emit grown others mayLog same ofTopic

theorem OrdersView.append_unread (view : OrdersView order system saga)
    {system' : SagaSystem} (orders : system'.orders = system.orders) {topic : Topic}
    {new : List Fact} (grown : system'.outbox topic = system.outbox topic ++ new)
    (others : ∀ other, other ≠ topic → system'.outbox other = system.outbox other)
    (none : new.filterMap (sagaReading order).read = []) :
    OrdersView order system' saga := by
  apply view.append orders grown others
  · rw [none]
    trivial
  · simp [none]
  · simp [none]
  all_goals rfl

/-- Every call Fulfillment has under way was received. -/
theorem fulfillment_calls {fulfillment fulfillment' : FulfillmentSystem}
    {action : FulfillmentAction}
    (stepped : FulfillmentSystem.step fulfillment action = some fulfillment')
    {call : FulfillmentCall} (callMem : call ∈ fulfillment'.calls) :
    (∃ before ∈ fulfillment.calls, before.request = call.request) ∨
      action = .receive call.request := by
  cases FulfillmentSystem.step_change stepped with
  | received request received serves =>
      rcases List.mem_append.mp callMem with before | new
      · exact Or.inl ⟨call, before, rfl⟩
      · rw [List.mem_singleton.mp new, serves]
        exact Or.inr rfl
  | nothingToRelease | alreadyDespatched => exact Or.inl ⟨call, callMem, rfl⟩
  | located index request looked =>
      rcases List.mem_append.mp callMem with before | new
      · exact Or.inl ⟨call, List.mem_of_mem_eraseIdx before, rfl⟩
      · rw [List.mem_singleton.mp new]
        exact Or.inl ⟨_, List.mem_of_getElem? looked, rfl⟩
  | nothingToDespatch | committed | refused | aborted =>
      exact Or.inl ⟨call, List.mem_of_mem_eraseIdx callMem, rfl⟩

/-- Every call Billing has under way was received. -/
theorem billing_calls {billing billing' : BillingSystem} {action : BillingAction}
    (stepped : BillingSystem.step billing action = some billing')
    {call : BillingCall} (callMem : call ∈ billing'.calls) :
    (∃ before ∈ billing.calls, before.request = call.request) ∨
      action = .receive call.request := by
  cases BillingSystem.step_change stepped with
  | received request received serves =>
      rcases List.mem_append.mp callMem with before | new
      · exact Or.inl ⟨call, before, rfl⟩
      · rw [List.mem_singleton.mp new, serves]
        exact Or.inr rfl
  | alreadyInvoiced | alreadyRecorded => exact Or.inl ⟨call, callMem, rfl⟩
  | resolved index request invoice looked =>
      rcases List.mem_append.mp callMem with before | new
      · exact Or.inl ⟨call, List.mem_of_mem_eraseIdx before, rfl⟩
      · rw [List.mem_singleton.mp new]
        exact Or.inl ⟨_, List.mem_of_getElem? looked, rfl⟩
  | unknownInvoice | committed | refused | aborted =>
      exact Or.inl ⟨call, List.mem_of_mem_eraseIdx callMem, rfl⟩

/-- The codes and lines of the order's reserve request, or any if none is owed. -/
theorem exists_reserve (order : OrderNumber) (db : OrdersDb) :
    ∃ companyCode lines, ∀ request : StockReserveRequest,
      request.orderReference = order → db.Owes (.stockReserve request) →
        request.companyCode = companyCode ∧ request.lines = lines := by
  by_cases owed : ∃ request : StockReserveRequest,
      request.orderReference = order ∧ db.Owes (.stockReserve request)
  · rcases owed with ⟨request, ofOrder, owes⟩
    refine ⟨request.companyCode, request.lines, fun other otherOf otherOwes => ?_⟩
    have same := otherOwes.eq owes (otherOf.trans ofOrder.symm) rfl
    cases same
    exact ⟨rfl, rfl⟩
  · exact ⟨default, [], fun request ofOrder owes =>
      absurd ⟨request, ofOrder, owes⟩ owed⟩

/-- The hold request of the order, or any if none is owed. -/
theorem exists_hold (order : OrderNumber) (db : OrdersDb) :
    ∃ hold : CreditHoldRequest, hold.orderReference = order ∧
      ∀ request, request.orderReference = order → db.Owes (.creditHold request) →
        request = hold := by
  by_cases owed : ∃ request : CreditHoldRequest,
      request.orderReference = order ∧ db.Owes (.creditHold request)
  · rcases owed with ⟨request, ofOrder, owes⟩
    refine ⟨request, ofOrder, fun other otherOf otherOwes => ?_⟩
    have same := otherOwes.eq owes (otherOf.trans ofOrder.symm) rfl
    cases same
    rfl
  · exact ⟨⟨order, default, default, ⟨0, .eur⟩⟩, rfl, fun request ofOrder owes =>
      absurd ⟨request, ofOrder, owes⟩ owed⟩

/-- One fact may be logged that is not emitted yet, nor any it precedes. -/
theorem mayLog_emit {topic : Topic} {fact : SagaFact} (ofTopic : fact.topic = topic)
    (once : ¬ Repeatable fact → ¬ saga.emitted fact)
    (first : ∀ other, Precedes fact other → other ≠ fact ∧ ¬ saga.emitted other)
    {rest : List SagaFact}
    (remaining : MayLog (sagaReading order) (fun fact => fact.topic = topic)
      saga.handled (fun other => other = fact ∨ saga.pending other) rest) :
    MayLog (sagaReading order) (fun fact => fact.topic = topic) saga.handled
      saga.pending (fact :: rest) := by
  refine ⟨ofTopic, fun notRepeatable => ?_, fun other precedes => ?_, remaining⟩
  · exact not_or.mp (once notRepeatable)
  · exact ⟨(first other precedes).1, not_or.mp (first other precedes).2⟩

/-- A step of another service: the facts of the order it appends to its topic, and
the phases its accounts of the reservation and of the credit leave them in. -/
structure ServiceStep (order : OrderNumber) (system : SagaSystem) (action : SagaAction)
    (system' : SagaSystem) (topic : Topic) (facts : List SagaFact)
    (stock : Option ReservationStatus) (credit : CreditPhase) : Prop where
  acted : system.act action = some system'
  orders : system'.orders = system.orders
  appends : ∃ new, system'.outbox topic = system.outbox topic ++ new ∧
    new.filterMap (sagaReading order).read = facts
  others : ∀ other, other ≠ topic → system'.outbox other = system.outbox other
  stockView : ∀ saga : OrderSaga, saga.stock = stock → StockView order system' saga
  creditView : ∀ saga : OrderSaga, saga.credit = credit → CreditView order system' saga

namespace ServiceStep

variable {action : SagaAction} {system' : SagaSystem} {topic : Topic}
  {facts : List SagaFact} {stock : Option ReservationStatus} {credit : CreditPhase}

/-- A step that emits nothing leaves the saga where it is. -/
theorem still (step : ServiceStep order system action system' topic [] saga.stock
    saga.credit) (represents : Represents order system saga) :
    Matches OrderSaga.Move (Represents order) (Explains order) system action system'
      saga := by
  rcases step.appends with ⟨new, grown, emits⟩
  refine Or.inl ⟨represents.coherent, ?_, step.stockView saga rfl,
    step.creditView saga rfl⟩
  exact represents.orders.append_unread step.orders grown step.others emits

/-- A move of the saga that no other part of it than the phases takes part in. -/
theorem moves
    (step : ServiceStep order system action system' topic facts stock credit)
    (represents : Represents order system saga) {label : OrderSaga.Label}
    (moved : saga.Move label saga') (unread : label.read? = none)
    (notCancel : label ≠ .beginRelease)
    (mayLog : MayLog (sagaReading order) (fun fact => fact.topic = topic) saga.handled
      saga.pending facts)
    (ofTopic : ∀ fact ∈ facts, fact.topic = topic)
    (shown : ∀ fact ∈ label.fact?, fact ∈ facts)
    (same : ∀ fact, saga'.pending fact ↔ fact ∈ facts ∨ saga.pending fact)
    (kept : saga' =
      { saga with stock := stock, credit := credit, pending := saga'.pending }) :
    Matches OrderSaga.Move (Represents order) (Explains order) system action system'
      saga := by
  rcases step.appends with ⟨new, grown, rfl⟩
  refine Or.inr ⟨label, saga', ?_, moved, represents.coherent.move moved, ?_,
    step.stockView saga' (by rw [kept]), step.creditView saga' (by rw [kept])⟩
  · constructor
    · intro fact isFact
      rw [ofTopic fact (shown fact isFact), mem_appended step.acted grown]
      exact shown fact isFact
    · rw [unread]
      rintro read ⟨⟩
    · exact fun absurdity => absurd absurdity notCancel
  · apply represents.orders.append step.orders grown step.others mayLog ofTopic same
    all_goals rw [kept]

/-- A move that emits one fact, which waits for nothing that may come later. -/
theorem emits {fact : SagaFact}
    (step : ServiceStep order system action system' topic [fact] stock credit)
    (represents : Represents order system saga) {label : OrderSaga.Label}
    (moved : saga.Move label
      (OrderSaga.emit { saga with stock := stock, credit := credit } fact))
    (shown : label.fact? = some fact) (ofTopic : fact.topic = topic)
    (unread : label.read? = none) (notCancel : label ≠ .beginRelease)
    (once : ¬ Repeatable fact → ¬ saga.emitted fact)
    (first : ∀ other, Precedes fact other → other ≠ fact ∧ ¬ saga.emitted other) :
    Matches OrderSaga.Move (Represents order) (Explains order) system action system'
      saga := by
  apply step.moves represents moved unread notCancel
    (mayLog_emit ofTopic once first trivial)
  · intro other otherMem
    rw [List.mem_singleton.mp otherMem]
    exact ofTopic
  · intro other isFact
    rw [shown] at isFact
    exact List.mem_singleton.mpr (Option.some.inj isFact).symm
  · intro other
    rw [List.mem_singleton]
    exact Iff.rfl
  · rfl

end ServiceStep

/-- What Fulfillment keeps asking and arbitrating. -/
theorem StockView.fulfillment (view : StockView order system saga)
    {action : FulfillmentAction} {fulfillment : FulfillmentSystem}
    (enabled : system.Enabled (.fulfillment action))
    (stepped : FulfillmentSystem.step system.fulfillment action = some fulfillment)
    (phase : saga'.stock = (fulfillment.db.orderStock order).phase) :
    StockView order { system with fulfillment := fulfillment } saga' where
  requested := by
    intro call callMem payload isPayload
    rcases fulfillment_calls stepped callMem with ⟨before, beforeMem, same⟩ | received
    · exact view.requested before beforeMem payload (same ▸ isPayload)
    · subst received
      exact enabled payload isPayload
  arbitrated := by
    intro companyCode lines compatible
    apply FulfillmentSystem.arbitrated_step
      (view.arbitrated companyCode lines compatible) _ stepped
    intro request received ofOrder
    apply compatible request ofOrder
    cases action with
    | receive request' =>
        cases request' with
        | stockReserve reserve =>
            cases received
            exact enabled _ rfl
        | stockRelease | despatchCreate | stockReplenish => cases received
    | locate | run | abort => cases received
  phase := phase

/-- What Billing keeps asking and accounting for. -/
theorem CreditView.billing (view : CreditView order system saga)
    {action : BillingAction} {billing : BillingSystem}
    (enabled : system.Enabled (.billing action))
    (stepped : BillingSystem.step system.billing action = some billing)
    (marks : (billing.db.orderCredit order).facts.filterMap markOf? =
      (OrderCredit.tracesOf 0 saga'.credit).marks) :
    CreditView order { system with billing := billing } saga' where
  requested := by
    intro call callMem payload isPayload
    rcases billing_calls stepped callMem with ⟨before, beforeMem, same⟩ | received
    · exact view.requested before beforeMem payload (same ▸ isPayload)
    · subst received
      exact enabled payload isPayload
  accounted := by
    intro hold ofOrder compatible
    apply BillingSystem.accounted_step (view.accounted hold ofOrder compatible) _ stepped
    intro request received ofHold
    apply compatible request (ofHold.trans ofOrder)
    cases action with
    | receive request' =>
        cases request' with
        | creditHold hold =>
            cases received
            exact enabled _ rfl
        | creditRelease | invoiceIssue | paymentRegister => cases received
    | locate | run | abort => cases received
  marks := marks

/-- The request of an order that Fulfillment has under way is owed. -/
theorem owed_of_requested (represents : Represents order system saga)
    (payload : SagaCommandPayload) (ofOrder : payload.order = order)
    {request : FulfillmentRequest} (isPayload : stockCommand? request = some payload)
    (requested : ∃ call ∈ system.fulfillment.calls, call.request = request) :
    system.orders.db.Owes payload ∧ saga.owed payload.kind := by
  rcases requested with ⟨call, callMem, rfl⟩
  have owes := represents.stock.requested call callMem payload isPayload
  exact ⟨owes, represents.orders.tables.owed_of_owes ofOrder owes⟩

namespace ServiceStep

variable {action : FulfillmentAction} {system' : SagaSystem}

theorem reserved (step : ServiceStep order system (.fulfillment action) system'
      .fulfillment [.stockReserved] (some .reserved) saga.credit)
    (represents : Represents order system saga) (owed : saga.owed .stockReserve)
    (first : saga.stock = none) :
    Matches OrderSaga.Move (Represents order) (Explains order) system
      (.fulfillment action) system' saga := by
  apply step.emits represents (.reserved owed first) rfl rfl rfl (by simp)
  · intro _
    simp [represents.coherent.emissions.reserved, first]
  · exact fun other precedes => precedes.elim

theorem stockRejected (step : ServiceStep order system (.fulfillment action) system'
      .fulfillment [.stockRejected] saga.stock saga.credit)
    (represents : Represents order system saga) (owed : saga.owed .stockReserve)
    (first : saga.stock = none) :
    Matches OrderSaga.Move (Represents order) (Explains order) system
      (.fulfillment action) system' saga := by
  apply step.emits represents (.stockRejected owed first) rfl rfl rfl (by simp)
  · exact fun notRepeatable => absurd (Or.inl rfl) notRepeatable
  · exact fun other precedes => precedes.elim

theorem released {reason : StockReleaseReason}
    (step : ServiceStep order system (.fulfillment action) system' .fulfillment
      [.stockReleased reason] (some .released) saga.credit)
    (represents : Represents order system saga) (owed : saga.releaseFor reason)
    (held : saga.stock = some .reserved) :
    Matches OrderSaga.Move (Represents order) (Explains order) system
      (.fulfillment action) system' saga := by
  apply step.emits represents (.released reason owed held) rfl rfl rfl (by simp)
  · intro _ emitted
    have released := (represents.coherent.emissions.released _ emitted).1
    rw [held] at released
    cases released
  · exact fun other precedes => precedes.elim

theorem despatched (step : ServiceStep order system (.fulfillment action) system'
      .fulfillment [.orderDespatched] (some .consumed) saga.credit)
    (represents : Represents order system saga) (owed : saga.owed .despatchCreate)
    (held : saga.stock = some .reserved) :
    Matches OrderSaga.Move (Represents order) (Explains order) system
      (.fulfillment action) system' saga := by
  apply step.emits represents (.despatched owed held) rfl rfl rfl (by simp)
  · intro _
    simp [represents.coherent.emissions.despatched, held]
  · exact fun other precedes => precedes.elim

end ServiceStep

/-- What Fulfillment does for the order, and what it leaves of it. -/
theorem fulfillment_step (represents : Represents order system saga)
    {action : FulfillmentAction} {fulfillment : FulfillmentSystem}
    (enabled : system.Enabled (.fulfillment action))
    (stepped : FulfillmentSystem.step system.fulfillment action = some fulfillment) :
    ∃ facts phase,
      ServiceStep order system (.fulfillment action)
        { system with fulfillment := fulfillment } .fulfillment facts phase
        saga.credit ∧
      StockMove order
        (fun request => ∃ call ∈ system.fulfillment.calls, call.request = request)
        saga.stock phase facts := by
  rcases exists_reserve order system.orders.db with ⟨companyCode, lines, compatible⟩
  rcases stock_step (represents.stock.arbitrated companyCode lines compatible) stepped
    with ⟨new, grown, stockMove⟩
  rw [← represents.stock.phase] at stockMove
  refine ⟨_, _, ⟨?_, rfl, ⟨new, grown, rfl⟩, ?_, ?_, ?_⟩, stockMove⟩
  · simp [SagaSystem.act, stepped]
  · intro other differs
    cases other with
    | fulfillment => exact absurd rfl differs
    | orders | billing => rfl
  · exact fun saga' => represents.stock.fulfillment enabled stepped
  · intro saga' same
    exact ⟨represents.credit.requested, represents.credit.accounted,
      same ▸ represents.credit.marks⟩

theorem represents_fulfillment (represents : Represents order system saga)
    {action : FulfillmentAction} {fulfillment : FulfillmentSystem}
    (enabled : system.Enabled (.fulfillment action))
    (stepped : FulfillmentSystem.step system.fulfillment action = some fulfillment) :
    Matches OrderSaga.Move (Represents order) (Explains order) system
      (.fulfillment action) { system with fulfillment := fulfillment } saga := by
  rcases fulfillment_step represents enabled stepped with ⟨facts, phase, step, stockMove⟩
  have owed := owed_of_requested represents
  generalize isPhase : saga.stock = before at stockMove
  cases stockMove with
  | unchanged =>
      rw [← isPhase] at step
      exact step.still represents
  | reserved request isRequested ofOrder =>
      exact step.reserved represents
        (owed (.stockReserve request) ofOrder rfl isRequested).2 isPhase
  | rejected request isRequested ofOrder =>
      have asked := (owed (.stockReserve request) ofOrder rfl isRequested).2
      rw [← isPhase] at step
      exact step.stockRejected represents asked isPhase
  | released request isRequested ofOrder =>
      have owes := (owed (.stockRelease request) ofOrder rfl isRequested).1
      exact step.released represents
        (represents.orders.tables.releaseFor_of_owes ofOrder owes) isPhase
  | despatched request isRequested ofOrder =>
      exact step.despatched represents
        (owed (.despatchCreate request) ofOrder rfl isRequested).2 isPhase

/-- The order is in the phase the saga has its credit in. -/
theorem CreditView.inPhase (view : CreditView order system saga)
    {hold : CreditHoldRequest} (ofOrder : hold.orderReference = order)
    (compatible : ∀ request, request.orderReference = order →
      system.orders.db.Owes (.creditHold request) → request = hold) :
    (system.billing.db.orderCredit order).InPhase hold.amount.amount saga.credit := by
  have accounted := view.accounted hold ofOrder compatible
  rw [← ofOrder]
  rcases accounted.consistent with ⟨phase, inPhase⟩
  have marks := inPhase.marks_eq
  rw [ofOrder, view.marks] at marks
  rwa [phase_eq_of_marks marks]

/-- A payment of the order is the only call that is no request of the saga. -/
theorem owed_of_called (represents : Represents order system saga)
    (payload : SagaCommandPayload) (ofOrder : payload.order = order)
    {call : BillingCall} (isPayload : creditCommand? call.request = some payload)
    (called : call ∈ system.billing.calls) : saga.owed payload.kind :=
  represents.orders.tables.owed_of_owes ofOrder
    (represents.credit.requested call called payload isPayload)

namespace ServiceStep

variable {action : BillingAction} {system' : SagaSystem}

theorem approved (step : ServiceStep order system (.billing action) system' .billing
      [.creditApproved] saga.stock .held)
    (represents : Represents order system saga) (owed : saga.owed .creditHold)
    (first : saga.credit = .unheld) :
    Matches OrderSaga.Move (Represents order) (Explains order) system
      (.billing action) system' saga := by
  have emissions := represents.coherent.emissions
  apply step.emits represents (.approved owed first) rfl rfl rfl (by simp)
  · intro _
    simp [emissions.approved, first]
  · intro other precedes
    cases other with
    | invoiceIssued => simp [emissions.issued, first]
    | creditReleased reason =>
        cases reason with
        | invoicePaid => simp [emissions.paidFor, first]
        | orderCancelled => simp [emissions.returned, first]
    | _ => exact precedes.elim

theorem creditRejected (step : ServiceStep order system (.billing action) system'
      .billing [.creditRejected] saga.stock saga.credit)
    (represents : Represents order system saga) (owed : saga.owed .creditHold)
    (first : saga.credit = .unheld) :
    Matches OrderSaga.Move (Represents order) (Explains order) system
      (.billing action) system' saga := by
  apply step.emits represents (.creditRejected owed first) rfl rfl rfl (by simp)
  · exact fun notRepeatable => absurd (Or.inr rfl) notRepeatable
  · exact fun other precedes => precedes.elim

theorem issued (step : ServiceStep order system (.billing action) system' .billing
      [.invoiceIssued] saga.stock .invoiced)
    (represents : Represents order system saga) (owed : saga.owed .invoiceIssue)
    (held : saga.credit = .held) :
    Matches OrderSaga.Move (Represents order) (Explains order) system
      (.billing action) system' saga := by
  have emissions := represents.coherent.emissions
  apply step.emits represents (.issued owed held) rfl rfl rfl (by simp)
  · intro _
    simp [emissions.issued, held]
  · intro other precedes
    cases other with
    | paymentReceived => simp [emissions.received, held]
    | _ => exact precedes.elim

/-- The payment of an order that holds its credit returns it as well. -/
theorem paid (step : ServiceStep order system (.billing action) system' .billing
      [.paymentReceived, .creditReleased .invoicePaid] saga.stock .paid)
    (represents : Represents order system saga) (invoiced : saga.credit = .invoiced) :
    Matches OrderSaga.Move (Represents order) (Explains order) system
      (.billing action) system' saga := by
  have received : ¬ saga.emitted .paymentReceived := by
    simp [represents.coherent.emissions.received, invoiced]
  have released : ¬ saga.emitted (.creditReleased .invoicePaid) := by
    simp [represents.coherent.emissions.paidFor, invoiced]
  apply step.moves represents (.paid invoiced) rfl (by simp)
  · apply mayLog_emit rfl (fun _ => received)
    · intro other precedes
      cases other with
      | creditReleased reason =>
          cases reason with
          | invoicePaid => exact ⟨by simp, released⟩
          | orderCancelled => exact precedes.elim
      | _ => exact precedes.elim
    · -- the release follows the payment, which is on its way by then
      refine ⟨rfl, fun _ => ⟨?_, ?_⟩, fun other precedes => precedes.elim, trivial⟩
      · rintro (absurdity | waits)
        · cases absurdity
        · exact released (Or.inl waits)
      · exact fun done => released (Or.inr done)
  · simp [SagaFact.topic]
  · simp [OrderSaga.Label.fact?]
  · intro fact
    simp only [OrderSaga.emit_pending, List.mem_cons]
    grind
  · rfl

theorem paidReturned (step : ServiceStep order system (.billing action) system'
      .billing [.paymentReceived] saga.stock .paidReturned)
    (represents : Represents order system saga)
    (invoiced : saga.credit = .invoicedReturned) :
    Matches OrderSaga.Move (Represents order) (Explains order) system
      (.billing action) system' saga := by
  have emissions := represents.coherent.emissions
  apply step.emits represents (.paidReturned invoiced) rfl rfl rfl (by simp)
  · intro _
    simp [emissions.received, invoiced]
  · intro other precedes
    cases other with
    | creditReleased reason =>
        cases reason with
        | invoicePaid => simp [emissions.paidFor, invoiced]
        | orderCancelled => exact precedes.elim
    | _ => exact precedes.elim

theorem returned (step : ServiceStep order system (.billing action) system' .billing
      [.creditReleased .orderCancelled] saga.stock
      (OrderCredit.returnedFrom saga.credit))
    (represents : Represents order system saga) (owed : saga.owed .creditRelease)
    (something : saga.credit = .held ∨ saga.credit = .invoiced) :
    Matches OrderSaga.Move (Represents order) (Explains order) system
      (.billing action) system' saga := by
  apply step.emits represents (.returned owed something) rfl rfl rfl (by simp)
  · intro _
    rw [represents.coherent.emissions.returned]
    rcases something with held | invoiced
    · simp [held]
    · simp [invoiced]
  · exact fun other precedes => precedes.elim

end ServiceStep

/-- What Billing does for the order, and what it leaves of it. -/
theorem billing_step (represents : Represents order system saga)
    {action : BillingAction} {billing : BillingSystem}
    (enabled : system.Enabled (.billing action))
    (stepped : BillingSystem.step system.billing action = some billing) :
    ∃ facts phase,
      ServiceStep order system (.billing action) { system with billing := billing }
        .billing facts saga.stock phase ∧
      CreditMove order (· ∈ system.billing.calls) saga.credit phase facts := by
  rcases exists_hold order system.orders.db with ⟨hold, ofHold, compatible⟩
  have inPhase := represents.credit.inPhase ofHold compatible
  rw [← ofHold] at inPhase
  rcases credit_step (represents.credit.accounted hold ofHold compatible) inPhase stepped
    with ⟨new, phase, grown, inPhase', creditMove⟩
  have marks := inPhase'.marks_eq
  rw [ofHold] at creditMove marks
  refine ⟨_, phase, ⟨?_, rfl, ⟨new, grown, rfl⟩, ?_, ?_, ?_⟩, creditMove⟩
  · simp [SagaSystem.act, stepped]
  · intro other differs
    cases other with
    | billing => exact absurd rfl differs
    | orders | fulfillment => rfl
  · intro saga' same
    exact ⟨represents.stock.requested, represents.stock.arbitrated,
      same.trans represents.stock.phase⟩
  · intro saga' isPhase
    apply represents.credit.billing enabled stepped
    rw [marks, isPhase]
    cases phase <;> rfl

theorem represents_billing (represents : Represents order system saga)
    {action : BillingAction} {billing : BillingSystem}
    (enabled : system.Enabled (.billing action))
    (stepped : BillingSystem.step system.billing action = some billing) :
    Matches OrderSaga.Move (Represents order) (Explains order) system (.billing action)
      { system with billing := billing } saga := by
  rcases billing_step represents enabled stepped with ⟨facts, phase, step, creditMove⟩
  have owed := owed_of_called represents
  generalize isPhase : saga.credit = before at creditMove
  cases creditMove with
  | unchanged =>
      rw [← isPhase] at step
      exact step.still represents
  | approved request isCalled ofOrder =>
      exact step.approved represents (owed (.creditHold request) ofOrder rfl isCalled)
        isPhase
  | rejected request isCalled ofOrder =>
      have asked := owed (.creditHold request) ofOrder rfl isCalled
      rw [← isPhase] at step
      exact step.creditRejected represents asked isPhase
  | issued request isCalled ofOrder =>
      exact step.issued represents (owed (.invoiceIssue request) ofOrder rfl isCalled)
        isPhase
  | paid => exact step.paid represents isPhase
  | paidReturned => exact step.paidReturned represents isPhase
  | returned request isCalled ofOrder _ something =>
      have asked := owed (.creditRelease request) ofOrder rfl isCalled
      rw [← isPhase] at step something
      exact step.returned represents asked something

/-- Every action of the services leaves the saga alone or makes one move of it. -/
theorem represents_step (represents : Represents order system saga)
    {action : SagaAction} {system' : SagaSystem}
    (stepped : SagaSystem.step system action = some system') :
    Matches OrderSaga.Move (Represents order) (Explains order) system action system'
      saga := by
  rcases SagaSystem.step_eq_some.mp stepped with ⟨enabled, acted⟩
  cases action with
  | orders action =>
      simp only [SagaSystem.act, Option.map_eq_some_iff] at acted
      rcases acted with ⟨orders, serviceStepped, rfl⟩
      exact represents_orders represents enabled serviceStepped
  | fulfillment action =>
      simp only [SagaSystem.act, Option.map_eq_some_iff] at acted
      rcases acted with ⟨fulfillment, serviceStepped, rfl⟩
      exact represents_fulfillment represents enabled serviceStepped
  | billing action =>
      simp only [SagaSystem.act, Option.map_eq_some_iff] at acted
      rcases acted with ⟨billing, serviceStepped, rfl⟩
      exact represents_billing represents enabled serviceStepped

/-- Every run of the services is one of the saga of the order, whose labels are
admitted where the actions that explain them are. -/
theorem exists_saga {guard : Guard SagaSystem SagaAction}
    {admits : OrderSaga → OrderSaga.Label → Prop}
    (order : OrderNumber) {stock : StockCatalogue} {credits : CreditCatalogue}
    (admitted : ∀ state action saga label, Represents order state saga →
      guard state action → Explains order state action label → admits saga label)
    (reached : Reachable SagaSystem.step guard (SagaSystem.initial stock credits)
      system) :
    ∃ saga, Represents order system saga ∧
      Reached OrderSaga.Move admits OrderSaga.initial saga :=
  exists_reached (represents_initial order stock credits)
    (fun _ _ _ _ represents _ stepped => represents_step represents stepped)
    admitted reached

/-- Every run of the services is one of the saga of each order. -/
theorem exists_run {guard : Guard SagaSystem SagaAction} (order : OrderNumber)
    {stock : StockCatalogue} {credits : CreditCatalogue}
    (reached : Reachable SagaSystem.step guard (SagaSystem.initial stock credits)
      system) :
    ∃ saga, Represents order system saga ∧
      Reached OrderSaga.Move (fun _ _ => True) OrderSaga.initial saga := by
  apply exists_saga order _ reached
  intros
  trivial

/-- Every reachable state of the services is represented for each order. -/
theorem exists_represented {guard : Guard SagaSystem SagaAction} (order : OrderNumber)
    {stock : StockCatalogue} {credits : CreditCatalogue}
    (reached : Reachable SagaSystem.step guard (SagaSystem.initial stock credits)
      system) :
    ∃ saga, Represents order system saga := by
  rcases exists_run order reached with ⟨saga, represents, _⟩
  exact ⟨saga, represents⟩

/-- A fact of the order is emitted once a service has appended it. -/
theorem Represents.emitted_iff (represents : Represents order system saga)
    (fact : SagaFact) :
    saga.emitted fact ↔ ∃ entry ∈ system.outbox fact.topic,
      entry.orderReference = order ∧ sagaFact? entry = some fact := by
  rw [OrderSaga.emitted, represents.orders.delivery.emitted_iff]
  simp only [read_eq_some]

end OrderToCash.Saga
