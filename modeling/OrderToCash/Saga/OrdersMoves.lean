import OrderToCash.Saga.OrdersSide
import OrderToCash.Transition.Simulation

/-!
# The steps of Orders are moves of the saga

An action of Orders leaves the order as the saga sees it, or makes one move of
it.  A move that follows a read shows the transaction that committed it, and one
that emits a fact shows the fact appended.
-/

namespace OrderToCash.Saga

open OrderToCash.Checked
open OrderToCash.Contracts
open OrderToCash.Kernel
open OrderToCash.Log
open OrderToCash.Orders
open OrderToCash.Transition

/-! ## What an action shows of a move -/

/-- The version the move has read. -/
def OrderSaga.Label.read? : OrderSaga.Label → Option Version
  | .handle _ read => some read
  | .cancel read => some read
  | .firstPark read => some read
  | _ => none

/-- The fact the move emits, the first if it emits two. -/
def OrderSaga.Label.fact? : OrderSaga.Label → Option SagaFact
  | .place => some .orderPlaced
  | .reserve true => some .stockReserved
  | .reserve false => some .stockRejected
  | .release reason => some (.stockReleased reason)
  | .despatch => some .orderDespatched
  | .hold true => some .creditApproved
  | .hold false => some .creditRejected
  | .issue => some .invoiceIssued
  | .pay => some .paymentReceived
  | .returnCredit => some (.creditReleased .orderCancelled)
  | .handle _ _ | .cancel _ | .firstPark _ | .beginRelease => none

/-- The transaction does what the label says. -/
def Shows : OrdersTransaction → OrderSaga.Label → Prop
  | .handleFact envelope _, .handle fact _ => sagaFact? envelope.fact = some fact
  | .cancelPlaced _, .cancel _ => True
  | .onFirstPark _ _, .firstPark _ => True
  | _, _ => False

/-- What an action appends for a topic. -/
def SagaSystem.appended (system : SagaSystem) (action : SagaAction) (topic : Topic) :
    List Fact :=
  match system.act action with
  | none => []
  | some system' => (system'.outbox topic).drop (system.outbox topic).length

/-- An action of the system explains a move of the order. -/
structure Explains (order : OrderNumber) (system : SagaSystem) (action : SagaAction)
    (label : OrderSaga.Label) : Prop where
  facts : ∀ fact ∈ label.fact?,
    fact ∈ (system.appended action fact.topic).filterMap (sagaReading order).read
  commits : ∀ read ∈ label.read?, ∃ index opened,
    action = .orders (.commit index) ∧
      system.orders.openTransactions[index]? = some opened ∧
      opened.work.order = order ∧ Shows opened.work label ∧
      read = opened.snapshot.version order
  cancels : label = .beginRelease → ∃ index call,
    action = .orders (.actOnCancel index) ∧
      system.orders.cancelCalls[index]? = some call ∧ call.order = order

/-- A move that handles a fact is the commit of a fact's transaction. -/
theorem Explains.exists_handleFact {order : OrderNumber} {system : SagaSystem}
    {action : SagaAction} {fact : SagaFact} {read : Version}
    (explained : Explains order system action (.handle fact read)) :
    ∃ index opened envelope sourceTopic, action = .orders (.commit index) ∧
      system.orders.openTransactions[index]? = some opened ∧
      opened.work = .handleFact envelope sourceTopic ∧ envelope.correlationId = order ∧
      sagaFact? envelope.fact = some fact ∧ read = opened.snapshot.version order := by
  rcases explained.commits read rfl with
    ⟨index, opened, isCommit, found, ofOrder, shows, isRead⟩
  cases work : opened.work with
  | handleFact envelope sourceTopic =>
      rw [work] at ofOrder shows
      exact ⟨index, opened, envelope, sourceTopic, isCommit, found, work, ofOrder, shows,
        isRead⟩
  | cancelPlaced | onFirstPark =>
      rw [work] at shows
      exact shows.elim

/-- A move that cancels the order is the commit of a placed branch. -/
theorem Explains.exists_cancelPlaced {order : OrderNumber} {system : SagaSystem}
    {action : SagaAction} {read : Version}
    (explained : Explains order system action (.cancel read)) :
    ∃ index opened, action = .orders (.commit index) ∧
      system.orders.openTransactions[index]? = some opened ∧
      opened.work = .cancelPlaced order := by
  rcases explained.commits read rfl with ⟨index, opened, isCommit, found, ofOrder, shows, _⟩
  cases work : opened.work with
  | cancelPlaced placed =>
      rw [work] at ofOrder
      cases ofOrder
      exact ⟨index, opened, isCommit, found, work⟩
  | handleFact | onFirstPark =>
      rw [work] at shows
      exact shows.elim

/-- An action that appends a fact shows it. -/
theorem mem_appended {system system' : SagaSystem} {action : SagaAction} {topic : Topic}
    {new : List Fact} (acted : system.act action = some system')
    (grown : system'.outbox topic = system.outbox topic ++ new) :
    system.appended action topic = new := by
  simp [SagaSystem.appended, acted, grown]

/-! ## Orders as the saga sees it -/

/-- The saga's account of Orders and of the facts on their way to it. -/
structure OrdersView (order : OrderNumber) (system : SagaSystem) (saga : OrderSaga) :
    Prop where
  tables : Tables order system.orders.db saga
  underWay : UnderWay order system.outbox system.orders saga
  agreed : saga.agreed ↔ ∃ answer ∈ system.orders.cancelAnswers,
    answer.order = order ∧ answer.outcome.IsAccepted
  delivery : Delivery order system.outbox system.orders.db.processedEvents
    saga.pending saga.handled

variable {order : OrderNumber} {system system' : SagaSystem} {saga saga' : OrderSaga}

theorem accepted_append {answers : List CancelAnswer} {other : OrderNumber}
    {outcome : CancelOutcome} :
    (∃ answer ∈ answers ++ [⟨other, outcome⟩],
        answer.order = order ∧ answer.outcome.IsAccepted) ↔
      (∃ answer ∈ answers, answer.order = order ∧ answer.outcome.IsAccepted) ∨
        other = order ∧ outcome.IsAccepted := by
  constructor
  · rintro ⟨answer, answerMem, accepted⟩
    rcases List.mem_append.mp answerMem with before | new
    · exact Or.inl ⟨answer, before, accepted⟩
    · cases List.mem_singleton.mp new
      exact Or.inr accepted
  · rintro (⟨answer, before, accepted⟩ | accepted)
    · exact ⟨answer, List.mem_append_left _ before, accepted⟩
    · exact ⟨_, List.mem_append_right _ (List.mem_singleton_self _), accepted⟩

/-- The facts saved with an order are none the saga sees. -/
theorem filterMap_read_of_silent {facts : List Fact}
    (silent : ∀ fact ∈ facts, sagaFact? fact = none) :
    facts.filterMap (sagaReading order).read = [] := by
  apply List.filterMap_eq_nil_iff.mpr
  intro fact factMem
  simp [sagaReading, silent fact factMem]

/-- A fact of another order is read as nothing. -/
theorem read_of_other {fact : Fact} (differs : fact.orderReference ≠ order) :
    (sagaReading order).read fact = none := by
  simp [sagaReading, differs]

/-- What a reaction to another order's fact writes leaves the order alone. -/
theorem Tables.carryOut_of_other {db : OrdersDb} (tables : Tables order db saga)
    {envelope : Envelope} {sourceTopic : Topic} {version : Version}
    {reaction : Reaction} {writes : List OrdersWrite}
    (differs : envelope.correlationId ≠ order)
    (written : reaction.Writes envelope sourceTopic version writes) :
    Tables order (applyWrites db writes) saga := by
  cases written with
  | ignored ignored => exact tables.congr tables.keyed rfl rfl rfl rfl rfl
  | late payload enqueues => exact tables.enqueue_of_other differs _ _
  | saves saved saves =>
      exact tables.save_of_other (by rwa [saves.ofOrder])
  | savesOwing saved payload saves enqueues =>
      exact (tables.save_of_other (by rwa [saves.ofOrder])).enqueue_of_other differs _ _

/-- The placed branch accepts nothing but what it cancels. -/
theorem accepted_of_cancelPlaced {db : OrdersDb} {placed : OrderNumber}
    {writes : List OrdersWrite} {outcome : CancelOutcome}
    (decided : cancelPlaced db placed = .ok (writes, outcome))
    (accepted : outcome.IsAccepted) : outcome = .cancelled := by
  simp only [cancelPlaced, bind_eq_ok_iff] at decided
  rcases decided with ⟨found, _, decided⟩
  split at decided
  · cases decided
    exact accepted.elim
  · split at decided
    · cases decided
      rfl
    · cases decided
      exact accepted.elim
    · cases decided

/-- The topics of the other services are not Orders' to append to. -/
theorem outbox_of_orders {orders : OrdersSystem} {topic : Topic}
    (notOrders : topic ≠ .orders) :
    SagaSystem.outbox { system with orders := orders } topic = system.outbox topic := by
  cases topic with
  | orders => exact absurd rfl notOrders
  | fulfillment => rfl
  | billing => rfl

/-- Inserting a new order commits its first version. -/
theorem Tables.insert {db : OrdersDb} (tables : Tables order db saga) {created : Order}
    {form : StoredForm} (keyed : (db.insert created form).Keyed)
    (reference : created.props.orderReference = order)
    (status : created.props.status = .placed)
    (reason : created.props.cancellationReason = none) :
    Tables order (db.insert created form)
      ((saga.commit ⟨some .placed, none, saga.current.accepted⟩).emit
        .orderPlaced) where
  keyed := keyed
  current := by
    have row : (db.insert created form).orders order = some (form.row created.props) := by
      simp [OrdersDb.insert, reference]
    have accepted : (db.insert created form).hasAcceptedOperatorCancel order =
        db.hasAcceptedOperatorCancel order := rfl
    simp [OrdersDb.version, OrdersDb.statusOf, tables.current, row, accepted, status,
      reason]
  rows := tables.rows
  owed := tables.owed
  releaseFor := tables.releaseFor

theorem Tables.insert_of_other {db : OrdersDb} (tables : Tables order db saga)
    {created : Order} {form : StoredForm} (keyed : (db.insert created form).Keyed)
    (differs : created.props.orderReference ≠ order) :
    Tables order (db.insert created form) saga := by
  apply tables.congr keyed
  · apply OrdersDb.version_congr
    · simp [OrdersDb.insert, Function.update_of_ne (Ne.symm differs)]
    · rfl
  all_goals rfl

/-- The branches that begin with a stock release. -/
theorem releases_of_branch {statusRead : Option OrderStatus} {status : OrderStatus}
    {planned : List PlannedCompensation}
    (branch : cancelBranch statusRead = .beginStockRelease status planned) :
    statusRead = some status ∧ OrderSaga.ReleasesFirst status := by
  unfold cancelBranch at branch
  split at branch <;> cases branch
  · exact ⟨rfl, Or.inr (Or.inl rfl)⟩
  · exact ⟨rfl, Or.inr (Or.inr rfl)⟩
  · exact ⟨rfl, Or.inl rfl⟩

namespace OrdersView

/-- The view after an action, from its parts. -/
theorem step (view : OrdersView order system saga) (coherent : saga.Coherent)
    {action : OrdersAction} {orders : OrdersSystem}
    (enabled : system.Enabled (.orders action))
    (stepped : OrdersSystem.step system.orders action = some orders)
    {new : List Fact} (grown : orders.db.outbox = system.orders.db.outbox ++ new)
    (past : ∀ version, saga.past version → saga'.past version)
    (known : saga.current.status ≠ none → saga'.current.status ≠ none)
    (tables : Tables order orders.db saga')
    (agreed : saga'.agreed ↔ ∃ answer ∈ orders.cancelAnswers,
      answer.order = order ∧ answer.outcome.IsAccepted)
    (delivery : Delivery order (SagaSystem.outbox { system with orders := orders })
      orders.db.processedEvents saga'.pending saga'.handled) :
    OrdersView order { system with orders := orders } saga' where
  tables := tables
  agreed := agreed
  delivery := delivery
  underWay := by
    have underWay : UnderWay order system.outbox orders saga := by
      apply view.underWay.step view.tables coherent _ stepped
      rintro envelope sourceTopic rfl
      refine ⟨enabled.1, fun ofOrder notSkipped => ?_⟩
      -- a fact is published of a placed order only
      cases isFact : sagaFact? envelope.fact with
      | none => exact absurd (isSkipped_iff.mpr isFact) notSkipped
      | some fact =>
          have reads := read_eq_some.mpr ⟨ofOrder, isFact⟩
          have emitted : saga.emitted fact := by
            by_cases isProcessed : envelope.eventId ∈ system.orders.db.processedEvents
            · exact Or.inr
                (view.delivery.handled_of_processed enabled.1 reads isProcessed)
            · exact Or.inl
                (view.delivery.pending_of_published enabled.1 reads isProcessed)
          exact coherent.known_of_emitted emitted
    apply underWay.mono _ past known
    intro topic position fact found
    by_cases ofOrders : topic = .orders
    · subst ofOrders
      change orders.db.outbox[position]? = some fact
      rw [grown]
      exact (List.getElem?_append_left
        (List.getElem?_eq_some_iff.mp found).1).trans found
    · rwa [outbox_of_orders ofOrders]

/-- Facts the saga does not see leave what is on its way alone. -/
theorem delivery_of_unread (view : OrdersView order system saga)
    (orders : OrdersSystem) {new : List Fact}
    (grown : orders.db.outbox = system.orders.db.outbox ++ new)
    (none : new.filterMap (sagaReading order).read = []) :
    Delivery order (SagaSystem.outbox { system with orders := orders })
      system.orders.db.processedEvents saga.pending saga.handled := by
  apply view.delivery.unread _ _ none
  · exact .orders
  · exact grown
  · exact fun other differs => outbox_of_orders differs

/-- What Orders emits is on its way to it. -/
theorem delivery_of_emitted (view : OrdersView order system saga)
    (orders : OrdersSystem) {new : List Fact} {pending : SagaFact → Prop}
    (grown : orders.db.outbox = system.orders.db.outbox ++ new)
    (mayLog : MayLog (sagaReading order) (fun fact => fact.topic = .orders) saga.handled
      saga.pending (new.filterMap (sagaReading order).read))
    (same : ∀ fact, pending fact ↔
      fact ∈ new.filterMap (sagaReading order).read ∨ saga.pending fact)
    (ofTopic : ∀ fact ∈ new.filterMap (sagaReading order).read,
      fact.topic = .orders) :
    Delivery order (SagaSystem.outbox { system with orders := orders })
      system.orders.db.processedEvents pending saga.handled := by
  have appended : SagaSystem.outbox { system with orders := orders } .orders =
      system.outbox .orders ++ new := grown
  exact view.delivery.emit appended (fun other differs => outbox_of_orders differs)
    mayLog same ofTopic

/-- An action that touches neither the tables of the order nor the outbox. -/
theorem stays (view : OrdersView order system saga) (coherent : saga.Coherent)
    {action : OrdersAction} {orders : OrdersSystem}
    (enabled : system.Enabled (.orders action))
    (stepped : OrdersSystem.step system.orders action = some orders)
    (tables : Tables order orders.db saga)
    (outbox : orders.db.outbox = system.orders.db.outbox)
    (processed : orders.db.processedEvents = system.orders.db.processedEvents)
    (answers : orders.cancelAnswers = system.orders.cancelAnswers) :
    OrdersView order { system with orders := orders } saga := by
  apply view.step coherent enabled stepped (outbox.trans (List.append_nil _).symm)
    (fun _ => id) id tables
  · rw [answers]
    exact view.agreed
  · rw [processed]
    exact view.delivery_of_unread orders (outbox.trans (List.append_nil _).symm) rfl

/-- A conditional update of a command row changes nothing the saga sees. -/
theorem update (view : OrdersView order system saga) (coherent : saga.Coherent)
    {action : OrdersAction} {orders : OrdersSystem}
    (enabled : system.Enabled (.orders action))
    (stepped : OrdersSystem.step system.orders action = some orders)
    (answers : orders.cancelAnswers = system.orders.cancelAnswers)
    {updated : OrderNumber} {kind : SagaCommandKind}
    {update : SagaCommandRow → SagaCommandRow}
    (result : system.orders.db.updateUnlessSent updated kind update = some orders.db)
    (spares : ∀ row, (update row).record = row.record) :
    OrdersView order { system with orders := orders } saga := by
  rcases OrdersDb.updateUnlessSent_commands order spares result with
    ⟨commands, rows, outbox, processed⟩
  apply view.stays coherent enabled stepped _ outbox processed answers
  apply view.tables.congr
  · intro other row stored
    rw [rows] at stored
    exact view.tables.keyed other row stored
  · exact OrdersDb.version_congr (congrFun rows order) commands
  · exact commands
  all_goals rfl

/-- Placing an order is its first move, and none of another's. -/
theorem place (view : OrdersView order system saga) (coherent : saga.Coherent)
    {firstLineId : Nat} {input : PlaceOrderInput} {form : StoredForm}
    {orders : OrdersSystem}
    (stepped : OrdersSystem.step system.orders (.place firstLineId input form) =
      some orders) :
    Matches OrderSaga.Move (OrdersView order) (Explains order) system
      (.orders (.place firstLineId input form)) { system with orders := orders } saga := by
  have acted : system.act (.orders (.place firstLineId input form)) =
      some { system with orders := orders } := by
    simp [SagaSystem.act, stepped]
  cases OrdersSystem.moves_of_step stepped with
  | place _ _ _ created unknown isCreated =>
      have keyed := (keyed_of_place form view.tables.keyed isCreated).1
      rcases Order.place_eq_ok isCreated with
        ⟨reference, status, reason, _, _, _, _, events⟩
      have enabled : system.Enabled (.orders (.place firstLineId input form)) := trivial
      have outbox : (system.orders.db.insert created form).outbox =
          system.orders.db.outbox ++ [orderPlacedEvent created.props] :=
        congrArg (_ ++ ·) events
      by_cases isThis : input.orderReference = order
      · subst isThis
        have none : saga.current.status = none := by
          rw [view.tables.current]
          simp [OrdersDb.version, OrdersDb.statusOf, unknown]
        have reads : [orderPlacedEvent created.props].filterMap
            (sagaReading input.orderReference).read = [.orderPlaced] := by
          simp [sagaReading, orderPlacedEvent, Fact.orderReference, reference,
            sagaFact?]
        have fresh : ¬ saga.emitted .orderPlaced := by
          rw [coherent.emissions.placed, none]
          simp
        refine Or.inr ⟨.place, _, ?_, .place none, ?_⟩
        · constructor
          · rintro fact ⟨⟩
            have appended : system.appended (.orders (.place firstLineId input form))
                .orders = [orderPlacedEvent created.props] :=
              mem_appended acted outbox
            change _ ∈ (system.appended _ .orders).filterMap _
            rw [appended, reads]
            exact List.mem_singleton_self _
          · rintro read ⟨⟩
          · rintro ⟨⟩
        · apply view.step coherent enabled stepped outbox
          · exact fun version isPast => Or.inr isPast
          · exact fun _ => Option.some_ne_none _
          · exact view.tables.insert keyed reference status reason
          · exact view.agreed
          · apply view.delivery_of_emitted _ outbox
            · rw [reads]
              refine ⟨rfl, fun _ => ?_, fun other precedes => precedes.elim, trivial⟩
              exact ⟨fun waits => fresh (Or.inl waits), fun done => fresh (Or.inr done)⟩
            · intro fact
              rw [reads, List.mem_singleton]
              rfl
            · rw [reads]
              rintro fact factMem
              rw [List.mem_singleton.mp factMem]
              rfl
      · apply Or.inl
        apply view.step coherent enabled stepped outbox (fun _ => id) id
        · apply view.tables.insert_of_other keyed
          rwa [reference]
        · exact view.agreed
        · apply view.delivery_of_unread _ outbox
          simp [sagaReading, orderPlacedEvent, Fact.orderReference, reference, isThis]

/-- A cancel request that finds the order past its placing asks for a stock
release, unless one is owed. -/
theorem actOnCancel (view : OrdersView order system saga) (coherent : saga.Coherent)
    {index : Nat} {orders : OrdersSystem}
    (stepped : OrdersSystem.step system.orders (.actOnCancel index) = some orders) :
    Matches OrderSaga.Move (OrdersView order) (Explains order) system
      (.orders (.actOnCancel index)) { system with orders := orders } saga := by
  have enabled : system.Enabled (.orders (.actOnCancel index)) := trivial
  cases OrdersSystem.moves_of_step stepped with
  | notFound =>
      apply Or.inl
      apply view.step coherent enabled stepped (List.append_nil _).symm (fun _ => id) id
        view.tables
      · rw [OrdersSystem.answer, accepted_append]
        simpa [CancelOutcome.IsAccepted] using view.agreed
      · exact view.delivery
  | cancelInTransaction =>
      exact Or.inl (view.stays coherent enabled stepped view.tables rfl rfl rfl)
  | beginStockRelease _ call status planned found branch =>
      have outbox : (system.orders.db.enqueue call.order .stockRelease
          (operatorStockReleaseRow call.order call.note)).outbox =
            system.orders.db.outbox ++ [] := by
        rw [OrdersDb.enqueue_outbox, List.append_nil]
      have delivery := view.delivery_of_unread
        { system.orders with
          db := system.orders.db.enqueue call.order .stockRelease
            (operatorStockReleaseRow call.order call.note) } outbox rfl
      by_cases isThis : call.order = order
      · subst isThis
        have explained : Explains call.order system (.orders (.actOnCancel index))
            .beginRelease := by
          constructor
          · rintro fact ⟨⟩
          · rintro read ⟨⟩
          · exact fun _ => ⟨index, call, rfl, found, rfl⟩
        rcases releases_of_branch branch with ⟨isRead, releases⟩
        rcases view.underWay.calls call (List.mem_of_getElem? found) rfl _ isRead with
          ⟨read, isPast, isStatus⟩
        by_cases owed : saga.owed .stockRelease
        · refine Or.inr ⟨_, _, explained,
            .beginReleaseAgain read status isPast isStatus releases owed, ?_⟩
          apply view.step coherent enabled stepped outbox
          · exact fun _ => id
          · exact id
          · exact view.tables.beginReleaseAgain call.note owed
          · rw [OrdersSystem.answer, accepted_append]
            simp [CancelOutcome.IsAccepted]
          · rw [OrdersSystem.answer, OrdersDb.enqueue_processedEvents]
            exact delivery
        · refine Or.inr ⟨_, _, explained,
            .beginRelease read status isPast isStatus releases owed, ?_⟩
          apply view.step coherent enabled stepped outbox
          · exact fun version isPast => Or.inr isPast
          · exact id
          · exact view.tables.beginRelease call.note owed
          · rw [OrdersSystem.answer, accepted_append]
            simp [CancelOutcome.IsAccepted]
          · rw [OrdersSystem.answer, OrdersDb.enqueue_processedEvents]
            exact delivery
      · apply Or.inl
        apply view.step coherent enabled stepped outbox (fun _ => id) id
        · exact view.tables.enqueue_of_other isThis _ _
        · rw [OrdersSystem.answer, accepted_append]
          simpa [isThis] using view.agreed
        · rw [OrdersSystem.answer, OrdersDb.enqueue_processedEvents]
          exact delivery

/-- The commit of a fact's transaction handles the fact. -/
theorem commitFact (view : OrdersView order system saga) (coherent : saga.Coherent)
    {index : Nat} {opened : OpenTransaction} {envelope : Envelope}
    {sourceTopic : Topic} {work : FactWork} {orders : OrdersSystem}
    (found : system.orders.openTransactions[index]? = some opened)
    (isWork : opened.work = .handleFact envelope sourceTopic)
    (fresh : envelope.eventId ∉ system.orders.db.processedEvents)
    (handled : handleFact opened.snapshot envelope sourceTopic = .ok work)
    (stepped : OrdersSystem.step system.orders (.commit index) = some orders)
    (written : orders.db =
      applyWrites (system.orders.db.recordProcessed envelope.eventId) work.writes)
    (answers : orders.cancelAnswers = system.orders.cancelAnswers) :
    Matches OrderSaga.Move (OrdersView order) (Explains order) system
      (.orders (.commit index)) { system with orders := orders } saga := by
  have openedMem := List.mem_of_getElem? found
  have enabled : system.Enabled (.orders (.commit index)) := trivial
  rcases view.underWay.delivered opened openedMem envelope sourceTopic isWork with
    ⟨published, notSkipped⟩
  cases isFact : sagaFact? envelope.fact with
  | none => exact absurd (isSkipped_iff.mpr isFact) notSkipped
  | some fact =>
      rcases reaction_of_handleFact (view.underWay.keyed opened openedMem) isFact handled
        with ⟨reaction, reacts, writes⟩
      rcases writes.outbox (system.orders.db.recordProcessed envelope.eventId) with
        ⟨processed, new, outbox, silent⟩
      rw [← written] at processed outbox
      have unread := @filterMap_read_of_silent order new silent
      have recorded : Tables order (system.orders.db.recordProcessed envelope.eventId)
          saga := view.tables.congr view.tables.keyed rfl rfl rfl rfl rfl
      by_cases ofOrder : envelope.correlationId = order
      · have reads := read_eq_some.mpr ⟨ofOrder, isFact⟩
        have waits := view.delivery.pending_of_published published reads fresh
        have work : opened.work.order = order := by
          rw [isWork]
          exact ofOrder
        have isPast := (view.underWay.opened opened openedMem work).1
        rcases view.delivery.process published reads with ⟨rest, again, delivery⟩
        refine Or.inr ⟨.handle fact (opened.snapshot.version order), _, ?_,
          .handle fact _ reaction rest waits isPast (ofOrder ▸ reacts) again, ?_⟩
        · constructor
          · rintro other ⟨⟩
          · rintro read ⟨⟩
            refine ⟨index, opened, rfl, found, work, ?_, rfl⟩
            rw [isWork]
            exact isFact
          · rintro ⟨⟩
        · apply view.step coherent enabled stepped outbox
          · intro version before
            exact (OrderSaga.carryOut_past _ _ _).mpr (Or.inr before)
          · intro known
            rwa [OrderSaga.carryOut_current, OrderSaga.after_status_ne_none]
          · rw [written]
            apply Tables.carryOut _ ofOrder writes
            exact recorded.congr recorded.keyed rfl rfl rfl rfl rfl
          · rw [OrderSaga.carryOut_agreed, answers]
            exact view.agreed
          · rw [OrderSaga.carryOut_pending, OrderSaga.carryOut_handled, processed]
            apply Delivery.unread delivery _ _ unread
            · exact .orders
            · exact outbox
            · exact fun other differs => outbox_of_orders differs
      · apply Or.inl
        apply view.step coherent enabled stepped outbox (fun _ => id) id
        · rw [written]
          exact recorded.carryOut_of_other ofOrder writes
        · rw [answers]
          exact view.agreed
        · rw [processed]
          apply Delivery.unread (view.delivery.process_unread published
            (read_of_other ofOrder)) _ _ unread
          · exact .orders
          · exact outbox
          · exact fun other differs => outbox_of_orders differs

/-- The commit of a placed branch cancels the order, or finds that it may not. -/
theorem commitCancel (view : OrdersView order system saga) (coherent : saga.Coherent)
    {index : Nat} {opened : OpenTransaction} {placed : OrderNumber}
    {writes : List OrdersWrite} {outcome : CancelOutcome} {orders : OrdersSystem}
    (found : system.orders.openTransactions[index]? = some opened)
    (isWork : opened.work = .cancelPlaced placed)
    (decided : cancelPlaced opened.snapshot placed = .ok (writes, outcome))
    (stepped : OrdersSystem.step system.orders (.commit index) = some orders)
    (written : orders.db = applyWrites system.orders.db writes)
    (answers : orders.cancelAnswers =
      system.orders.cancelAnswers ++ [⟨placed, outcome⟩]) :
    Matches OrderSaga.Move (OrdersView order) (Explains order) system
      (.orders (.commit index)) { system with orders := orders } saga := by
  have openedMem := List.mem_of_getElem? found
  have enabled : system.Enabled (.orders (.commit index)) := trivial
  have accepted := accepted_of_cancelPlaced decided
  rcases cancelPlaced_writes decided with
    ⟨rfl, notCancelled, _⟩ | ⟨loaded, saved, isLoaded, cancelled, rfl, rfl⟩
  · have outbox : orders.db.outbox = system.orders.db.outbox ++ [] := by
      rw [written]
      exact (List.append_nil _).symm
    have processed : orders.db.processedEvents = system.orders.db.processedEvents := by
      rw [written]
      rfl
    apply Or.inl
    apply view.step coherent enabled stepped outbox (fun _ => id) id
    · rw [written]
      exact view.tables
    · rw [answers, accepted_append]
      simpa [mt accepted notCancelled] using view.agreed
    · rw [processed]
      exact view.delivery_of_unread orders outbox rfl
  · rcases findById_eq_ok_some isLoaded with ⟨row, stored, rebuilt⟩
    rcases silent_of_reconstitute rebuilt with ⟨noEvents, _⟩
    rcases Order.cancel_eq_ok cancelled with ⟨cancellable, _, _, savedProps⟩
    rcases reconstitute_status rebuilt with ⟨sameReference, sameStatus, _⟩
    have loadedSilent : loaded.Silent := by
      rintro fact factMem
      rw [noEvents] at factMem
      cases factMem
    have silent := loadedSilent.cancel cancelled
    have reference : saved.props.orderReference = placed := by
      rw [savedProps]
      exact sameReference.trans (view.underWay.keyed opened openedMem _ _ stored)
    have outbox : orders.db.outbox = system.orders.db.outbox ++ saved.domainEvents := by
      rw [written]
      rfl
    have processed : orders.db.processedEvents = system.orders.db.processedEvents := by
      rw [written]
      rfl
    have delivery := view.delivery_of_unread orders outbox
      (filterMap_read_of_silent silent)
    by_cases ofOrder : placed = order
    · subst ofOrder
      have work : opened.work.order = placed := by
        rw [isWork]
        rfl
      have isStatus : (opened.snapshot.version placed).status =
          some loaded.props.status := by
        simp [OrdersDb.version, OrdersDb.statusOf, stored, sameStatus]
      refine Or.inr ⟨.cancel (opened.snapshot.version placed), _, ?_,
        .cancel _ _ (view.underWay.opened opened openedMem work).1 isStatus
          cancellable, ?_⟩
      · constructor
        · rintro fact ⟨⟩
        · rintro read ⟨⟩
          refine ⟨index, opened, rfl, found, work, ?_, rfl⟩
          rw [isWork]
          trivial
        · rintro ⟨⟩
      · apply view.step coherent enabled stepped outbox
        · exact fun version before => Or.inr before
        · intro known
          simpa using known
        · rw [written]
          have tables := view.tables.save reference
          rw [savedProps] at tables
          exact tables.congr tables.keyed rfl rfl rfl rfl rfl
        · rw [answers, accepted_append]
          simp [CancelOutcome.IsAccepted]
        · rw [processed]
          exact delivery
    · apply Or.inl
      apply view.step coherent enabled stepped outbox (fun _ => id) id
      · rw [written]
        apply view.tables.save_of_other
        rwa [reference]
      · rw [answers, accepted_append]
        simpa [ofOrder] using view.agreed
      · rw [processed]
        exact delivery

/-- The commit of the dead-letter hook writes the order back as it was read. -/
theorem commitFirstPark (view : OrdersView order system saga)
    (coherent : saga.Coherent) {index : Nat} {opened : OpenTransaction}
    {parked : OrderNumber} {failure : SagaFailureInput} {writes : List OrdersWrite}
    {orders : OrdersSystem}
    (found : system.orders.openTransactions[index]? = some opened)
    (isWork : opened.work = .onFirstPark parked failure)
    (decided : onFirstPark opened.snapshot parked failure = .ok writes)
    (stepped : OrdersSystem.step system.orders (.commit index) = some orders)
    (written : orders.db = applyWrites system.orders.db writes)
    (answers : orders.cancelAnswers = system.orders.cancelAnswers) :
    Matches OrderSaga.Move (OrdersView order) (Explains order) system
      (.orders (.commit index)) { system with orders := orders } saga := by
  have openedMem := List.mem_of_getElem? found
  have enabled : system.Enabled (.orders (.commit index)) := trivial
  rcases onFirstPark_writes decided with ⟨rfl, _⟩ | ⟨loaded, isLoaded, rfl⟩
  · apply Or.inl
    apply view.stays coherent enabled stepped _ _ _ answers
    · rw [written]
      exact view.tables
    · rw [written]
      rfl
    · rw [written]
      rfl
  · rcases findById_eq_ok_some isLoaded with ⟨row, stored, rebuilt⟩
    rcases silent_of_reconstitute rebuilt with ⟨noEvents, _⟩
    rcases reconstitute_status rebuilt with ⟨sameReference, sameStatus, sameReason⟩
    have reference : (loaded.recordSagaFailure failure).props.orderReference = parked :=
      sameReference.trans (view.underWay.keyed opened openedMem _ _ stored)
    have silent : (loaded.recordSagaFailure failure).Silent := by
      rintro fact factMem
      rw [Order.recordSagaFailure, noEvents] at factMem
      rw [List.mem_singleton.mp factMem]
      rfl
    have outbox : orders.db.outbox = system.orders.db.outbox ++
        (loaded.recordSagaFailure failure).domainEvents := by
      rw [written]
      rfl
    have processed : orders.db.processedEvents = system.orders.db.processedEvents := by
      rw [written]
      rfl
    have delivery := view.delivery_of_unread orders outbox
      (filterMap_read_of_silent silent)
    by_cases ofOrder : parked = order
    · subst ofOrder
      have work : opened.work.order = parked := by
        rw [isWork]
        rfl
      have isStatus : (opened.snapshot.version parked).status =
          some loaded.props.status := by
        simp [OrdersDb.version, OrdersDb.statusOf, stored, sameStatus]
      have isReason : (opened.snapshot.version parked).reason =
          loaded.props.cancellationReason := by
        simp [OrdersDb.version, stored, sameReason]
      refine Or.inr ⟨.firstPark (opened.snapshot.version parked), _, ?_,
        .firstPark _ _ (view.underWay.opened opened openedMem work).1 isStatus, ?_⟩
      · constructor
        · rintro fact ⟨⟩
        · rintro read ⟨⟩
          refine ⟨index, opened, rfl, found, work, ?_, rfl⟩
          rw [isWork]
          trivial
        · rintro ⟨⟩
      · apply view.step coherent enabled stepped outbox
        · exact fun version before => Or.inr before
        · intro known
          simpa using known
        · rw [written, isReason]
          exact view.tables.save reference
        · rw [answers]
          exact view.agreed
        · rw [processed]
          exact delivery
    · apply Or.inl
      apply view.step coherent enabled stepped outbox (fun _ => id) id
      · rw [written]
        apply view.tables.save_of_other
        rwa [reference]
      · rw [answers]
        exact view.agreed
      · rw [processed]
        exact delivery

/-- Whatever a commit does to the order is a move of it. -/
theorem commit (view : OrdersView order system saga) (coherent : saga.Coherent)
    {index : Nat} {orders : OrdersSystem}
    (stepped : OrdersSystem.step system.orders (.commit index) = some orders) :
    Matches OrderSaga.Move (OrdersView order) (Explains order) system
      (.orders (.commit index)) { system with orders := orders } saga := by
  cases OrdersSystem.moves_of_step stepped with
  | commit _ opened _ found committed =>
      cases committed with
      | handleFact envelope sourceTopic work isWork fresh handled =>
          exact view.commitFact coherent found isWork fresh handled stepped rfl rfl
      | cancelPlaced placed writes outcome isWork decided =>
          exact view.commitCancel coherent found isWork decided stepped rfl rfl
      | onFirstPark parked failure writes isWork decided =>
          exact view.commitFirstPark coherent found isWork decided stepped rfl rfl

end OrdersView

/-- Every action of Orders leaves the order as the saga sees it, or makes a move
of it. -/
theorem orders_step (view : OrdersView order system saga) (coherent : saga.Coherent)
    {action : OrdersAction} {orders : OrdersSystem}
    (enabled : system.Enabled (.orders action))
    (stepped : OrdersSystem.step system.orders action = some orders) :
    Matches OrderSaga.Move (OrdersView order) (Explains order) system (.orders action)
      { system with orders := orders } saga := by
  cases OrdersSystem.moves_of_step stepped with
  | place => exact view.place coherent stepped
  | notFound | beginStockRelease | cancelInTransaction =>
      exact view.actOnCancel coherent stepped
  | commit => exact view.commit coherent stepped
  | beginFact | readForCancel | rollback | alreadyClaimed | beginFirstPark =>
      exact Or.inl (view.stays coherent enabled stepped view.tables rfl rfl rfl)
  | markSent _ _ db updated | markRejected _ _ _ _ db updated | park _ _ _ _ db updated =>
      exact Or.inl (view.update coherent enabled stepped rfl updated fun _ => rfl)
  | claimDeadLetter index parked db waiting claimed =>
      rcases OrdersDb.claimDeadLetter_sagaCommands claimed with ⟨row, stored, _, rfl⟩
      have same : SagaCommandRow.record { row with deadLettered := true } =
          row.record := rfl
      have commands := OrdersDb.setSagaCommand_commands order stored same
      apply Or.inl
      apply view.stays coherent enabled stepped _ rfl rfl rfl
      apply view.tables.congr
      · exact view.tables.keyed
      · exact OrdersDb.version_congr rfl commands
      · exact commands
      all_goals rfl

end OrderToCash.Saga
