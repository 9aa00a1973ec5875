import OrderToCash.Orders.CommandLifecycle
import OrderToCash.Saga.Coherence
import OrderToCash.Saga.Delivery

/-!
# Orders' side of the saga

What a step of Orders does to one order, in the saga's terms.  Of a command row
only the payload and what it was enqueued for matter, which no later statement
changes.
-/

namespace OrderToCash.Orders

open OrderToCash.Contracts
open OrderToCash.Kernel
open OrderToCash.Saga

/-- What stays of a command row once it is enqueued. -/
def SagaCommandRow.record (row : SagaCommandRow) :
    SagaCommandPayload × TriggeringEnvelope :=
  (row.payload, row.triggeringEnvelope)

/-- The answer accepts an operator's cancel request. -/
def CancelOutcome.IsAccepted : CancelOutcome → Prop
  | .cancelled => True
  | .compensationPending _ _ => True
  | .notFound => False
  | .notCancellable _ => False

instance (outcome : CancelOutcome) : Decidable outcome.IsAccepted := by
  unfold CancelOutcome.IsAccepted
  split <;> infer_instance

namespace OrdersDb

/-- The commands of an order, as far as they stay. -/
def commands (db : OrdersDb) (order : OrderNumber) (kind : SagaCommandKind) :
    Option (SagaCommandPayload × TriggeringEnvelope) :=
  (db.sagaCommands order kind).map SagaCommandRow.record

variable {db db' : OrdersDb} {order : OrderNumber}

theorem hasAccepted_eq (db : OrdersDb) (order : OrderNumber) :
    db.hasAcceptedOperatorCancel order =
      [SagaCommandKind.creditRelease, SagaCommandKind.stockRelease].any fun kind =>
        (db.commands order kind).any fun record => isOperatorCancelEnvelope record.2 := by
  simp only [hasAcceptedOperatorCancel, commands]
  congr 1
  funext kind
  cases db.sagaCommands order kind <;> rfl

theorem owes_iff {payload : SagaCommandPayload} :
    db.Owes payload ↔
      ∃ trigger, db.commands payload.order payload.kind = some (payload, trigger) := by
  simp [Owes, commands, SagaCommandRow.record]

/-- A version is the stored row and the commands. -/
theorem version_congr (row : db'.orders order = db.orders order)
    (commands : db'.commands order = db.commands order) :
    db'.version order = db.version order := by
  simp only [version, statusOf, row, hasAccepted_eq, commands]

theorem setSagaCommand_commands (other : OrderNumber) {kind : SagaCommandKind}
    {row stored : SagaCommandRow} (isStored : db.sagaCommands order kind = some stored)
    (same : row.record = stored.record) :
    (db.setSagaCommand order kind row).commands other = db.commands other := by
  funext otherKind
  unfold commands
  rw [setSagaCommand_sagaCommands]
  split
  · rename_i isThis
    rw [← isThis.1, ← isThis.2, isStored]
    simp [same]
  · rfl

/-- An update of a row that spares its record changes no commands. -/
theorem updateUnlessSent_commands (other : OrderNumber) {updated : OrderNumber}
    {kind : SagaCommandKind} {update : SagaCommandRow → SagaCommandRow}
    (spares : ∀ row, (update row).record = row.record)
    (result : db.updateUnlessSent updated kind update = some db') :
    db'.commands other = db.commands other ∧ db'.orders = db.orders ∧
      db'.outbox = db.outbox ∧ db'.processedEvents = db.processedEvents := by
  unfold updateUnlessSent at result
  split at result
  · cases result
  · rename_i row stored
    split at result
    · cases result
    · cases result
      exact ⟨setSagaCommand_commands other stored (spares row), rfl, rfl, rfl⟩

/-- An enqueued row is recorded where none was. -/
theorem enqueue_commands (other enqueued : OrderNumber) (kind otherKind : SagaCommandKind)
    (row : SagaCommandRow) :
    (db.enqueue enqueued kind row).commands other otherKind =
      if (enqueued = other ∧ kind = otherKind) ∧ db.commands other otherKind = none then
        some row.record
      else
        db.commands other otherKind := by
  unfold enqueue
  split
  · rename_i absent
    by_cases isThis : enqueued = other ∧ kind = otherKind
    · rcases isThis with ⟨rfl, rfl⟩
      simp [commands, setSagaCommand_sagaCommands, absent]
    · rw [if_neg fun both => isThis both.1]
      simp [commands, setSagaCommand_sagaCommands, isThis]
  · rename_i stored isStored
    rw [if_neg]
    rintro ⟨⟨rfl, rfl⟩, absent⟩
    simp [commands, isStored] at absent

theorem enqueue_commands_of_other {enqueued : OrderNumber} (differs : enqueued ≠ order)
    (kind : SagaCommandKind) (row : SagaCommandRow) :
    (db.enqueue enqueued kind row).commands order = db.commands order := by
  funext otherKind
  rw [enqueue_commands, if_neg fun both => differs both.1.1]

@[simp]
theorem enqueue_outbox (enqueued : OrderNumber) (kind : SagaCommandKind)
    (row : SagaCommandRow) : (db.enqueue enqueued kind row).outbox = db.outbox := by
  unfold enqueue
  split <;> rfl

@[simp]
theorem enqueue_processedEvents (enqueued : OrderNumber) (kind : SagaCommandKind)
    (row : SagaCommandRow) :
    (db.enqueue enqueued kind row).processedEvents = db.processedEvents := by
  unfold enqueue
  split <;> rfl

/-- A row a fact enqueues records no cancel request. -/
theorem enqueue_hasAccepted_of_fact (enqueued : OrderNumber) (kind : SagaCommandKind)
    (payload : SagaCommandPayload) (envelope : Envelope) (sourceTopic : Topic) :
    (db.enqueue enqueued kind (.enqueued payload (.fact envelope) sourceTopic)
      ).hasAcceptedOperatorCancel order = db.hasAcceptedOperatorCancel order := by
  simp only [hasAccepted_eq]
  congr 1
  funext otherKind
  rw [enqueue_commands]
  split
  · rename_i new
    rw [new.2]
    rfl
  · rfl

/-- An operator's cancel request is recorded unless the release is owed. -/
theorem enqueue_hasAccepted_of_operator (note : Option String)
    (absent : db.commands order .stockRelease = none) :
    (db.enqueue order .stockRelease (operatorStockReleaseRow order note)
      ).hasAcceptedOperatorCancel order = true := by
  rw [hasAccepted_eq]
  simp [enqueue_commands, absent, operatorStockReleaseRow, SagaCommandRow.record,
    SagaCommandRow.enqueued, isOperatorCancelEnvelope]

/-! ## Saving an order -/

theorem save_commands (saved : Order) : (db.save saved).commands = db.commands := rfl

theorem save_version_of_other {saved : Order}
    (differs : saved.props.orderReference ≠ order) :
    (db.save saved).version order = db.version order := by
  apply version_congr
  · rw [save_orders, if_neg (Ne.symm differs)]
  · rw [save_commands]

/-- Saving an order leaves the version that was saved, if its row exists. -/
theorem save_version {saved : Order} (ofOrder : saved.props.orderReference = order) :
    (db.save saved).version order =
      OrderSaga.saved (db.version order) saved.props.status
        saved.props.cancellationReason := by
  have row := save_orders db saved order
  rw [if_pos ofOrder.symm] at row
  have status := save_statusOf db saved order
  rw [if_pos ofOrder.symm] at status
  have accepted : (db.save saved).hasAcceptedOperatorCancel order =
      db.hasAcceptedOperatorCancel order := rfl
  cases stored : db.orders order with
  | none =>
      have unknown : db.statusOf order = none := by simp [statusOf, stored]
      simp [version, OrderSaga.saved, status, accepted, row, stored, unknown]
  | some before =>
      have known : db.statusOf order = some before.status := by simp [statusOf, stored]
      simp [version, OrderSaga.saved, status, accepted, row, stored, known,
        updateOrderRow]

end OrdersDb

/-- What a reaction writes appends nothing the saga sees, and consumes nothing. -/
theorem Reaction.Writes.outbox {envelope : Envelope} {sourceTopic : Topic}
    {version : Version} {reaction : Reaction} {writes : List OrdersWrite}
    (written : reaction.Writes envelope sourceTopic version writes) (db : OrdersDb) :
    (applyWrites db writes).processedEvents = db.processedEvents ∧
      ∃ new, (applyWrites db writes).outbox = db.outbox ++ new ∧
        ∀ fact ∈ new, sagaFact? fact = none := by
  cases written with
  | ignored ignored => exact ⟨rfl, [], (List.append_nil _).symm, by simp⟩
  | late payload enqueues =>
      exact ⟨OrdersDb.enqueue_processedEvents _ _ _, [],
        (OrdersDb.enqueue_outbox _ _ _).trans (List.append_nil _).symm, by simp⟩
  | saves saved saves => exact ⟨rfl, saved.domainEvents, rfl, saves.silent⟩
  | savesOwing saved payload saves enqueues =>
      exact ⟨OrdersDb.enqueue_processedEvents _ _ _, saved.domainEvents,
        OrdersDb.enqueue_outbox _ _ _, saves.silent⟩

/-! ## What an action writes -/

/-- What an action of Orders does to the database. -/
inductive DbChange (db db' : OrdersDb) : Prop
  | same (unchanged : db' = db)
  | placed (created : Order) (form : StoredForm) (written : db' = db.insert created form)
  | wrote (writes : List OrdersWrite) (written : db' = applyWrites db writes)
  | processed (eventId : EventId) (writes : List OrdersWrite)
      (written : db' = applyWrites (db.recordProcessed eventId) writes)
  | updated (order : OrderNumber) (kind : SagaCommandKind) (stored row : SagaCommandRow)
      (isStored : db.sagaCommands order kind = some stored)
      (sameRecord : row.record = stored.record)
      (written : db' = db.setSagaCommand order kind row)

theorem dbChange_of_update {db db' : OrdersDb} {order : OrderNumber}
    {kind : SagaCommandKind} {update : SagaCommandRow → SagaCommandRow}
    (result : db.updateUnlessSent order kind update = some db')
    (spares : ∀ row, (update row).record = row.record) : DbChange db db' := by
  unfold OrdersDb.updateUnlessSent at result
  split at result
  · cases result
  · rename_i row stored
    split at result
    · cases result
    · cases result
      exact .updated order kind row (update row) stored (spares row) rfl

theorem OrdersSystem.dbChange {system system' : OrdersSystem} {action : OrdersAction}
    (stepped : step system action = some system') : DbChange system.db system'.db := by
  cases moves_of_step stepped with
  | place _ _ form created => exact .placed created form rfl
  | beginFact | readForCancel | notFound | cancelInTransaction | rollback
  | alreadyClaimed | beginFirstPark => exact .same rfl
  | beginStockRelease _ call =>
      exact .wrote [.enqueue call.order .stockRelease
        (operatorStockReleaseRow call.order call.note)] rfl
  | commit index opened _ found committed =>
      cases committed with
      | handleFact envelope sourceTopic work => exact .processed _ work.writes rfl
      | cancelPlaced _ writes | onFirstPark _ _ writes => exact .wrote writes rfl
  | markSent _ _ _ updated | markRejected _ _ _ _ _ updated | park _ _ _ _ _ updated =>
      exact dbChange_of_update updated fun _ => rfl
  | claimDeadLetter index parked db waiting claimed =>
      rcases OrdersDb.claimDeadLetter_sagaCommands claimed with ⟨row, stored, _, rfl⟩
      exact .updated _ _ row { row with deadLettered := true } stored rfl rfl

/-- Facts and processed events are only added. -/
theorem OrdersDb.added_of_applyWrites (db : OrdersDb) (writes : List OrdersWrite) :
    (applyWrites db writes).processedEvents = db.processedEvents ∧
      ∃ new, (applyWrites db writes).outbox = db.outbox ++ new := by
  induction writes generalizing db with
  | nil => exact ⟨rfl, [], (List.append_nil _).symm⟩
  | cons write rest inductionHypothesis =>
      rcases inductionHypothesis (write.apply db) with ⟨processed, new, outbox⟩
      rw [applyWrites, processed, outbox]
      cases write with
      | save saved =>
          exact ⟨rfl, saved.domainEvents ++ new, List.append_assoc _ _ _⟩
      | enqueue order kind row =>
          exact ⟨OrdersDb.enqueue_processedEvents _ _ _, new,
            congrArg (· ++ new) (OrdersDb.enqueue_outbox _ _ _)⟩
      | recordIgnored ignored => exact ⟨rfl, new, rfl⟩

theorem OrdersSystem.added {system system' : OrdersSystem} {action : OrdersAction}
    (stepped : step system action = some system') :
    (∀ eventId ∈ system.db.processedEvents, eventId ∈ system'.db.processedEvents) ∧
      ∃ new, system'.db.outbox = system.db.outbox ++ new := by
  cases OrdersSystem.dbChange stepped with
  | same unchanged =>
      rw [unchanged]
      exact ⟨fun _ => id, [], (List.append_nil _).symm⟩
  | placed created form written =>
      rw [written]
      exact ⟨fun _ => id, created.domainEvents, rfl⟩
  | wrote writes written =>
      rcases system.db.added_of_applyWrites writes with ⟨processed, outbox⟩
      rw [written, processed]
      exact ⟨fun _ => id, outbox⟩
  | processed eventId writes written =>
      rcases (system.db.recordProcessed eventId).added_of_applyWrites writes with
        ⟨processed, outbox⟩
      rw [written, processed]
      exact ⟨fun _ before => List.mem_cons_of_mem _ before, outbox⟩
  | updated order kind stored row isStored sameRecord written =>
      rw [written]
      exact ⟨fun _ => id, [], (List.append_nil _).symm⟩

end OrderToCash.Orders

namespace OrderToCash.Saga

open OrderToCash.Contracts
open OrderToCash.Kernel
open OrderToCash.Orders

/-! ## The tables -/

/-- The saga's account of what Orders stores of an order. -/
structure Tables (order : OrderNumber) (db : OrdersDb) (saga : OrderSaga) : Prop where
  keyed : db.Keyed
  current : saga.current = db.version order
  rows : ∀ kind payload trigger,
    db.commands order kind = some (payload, trigger) →
      payload.order = order ∧ payload.kind = kind
  owed : ∀ kind, saga.owed kind ↔ db.commands order kind ≠ none
  releaseFor : ∀ reason, saga.releaseFor reason ↔
    ∃ trigger, db.commands order .stockRelease =
      some (.stockRelease ⟨order, reason⟩, trigger)

namespace Tables

variable {order : OrderNumber} {db db' : OrdersDb} {saga saga' : OrderSaga}

theorem initial (order : OrderNumber) :
    Tables order OrdersDb.empty OrderSaga.initial where
  keyed := by
    rintro other row ⟨⟩
  current := rfl
  rows := by
    rintro kind payload trigger ⟨⟩
  owed kind := by
    simp [OrderSaga.initial, OrdersDb.commands, OrdersDb.empty]
  releaseFor reason := by
    simp [OrderSaga.initial, OrdersDb.commands, OrdersDb.empty]

/-- The account is of the version and the commands, and of nothing else. -/
theorem congr (tables : Tables order db saga) (keyed : db'.Keyed)
    (version : db'.version order = db.version order)
    (commands : db'.commands order = db.commands order)
    (current : saga'.current = saga.current) (owed : saga'.owed = saga.owed)
    (releaseFor : saga'.releaseFor = saga.releaseFor) : Tables order db' saga' where
  keyed := keyed
  current := by
    rw [current, version, tables.current]
  rows := by
    rw [commands]
    exact tables.rows
  owed := by
    rw [owed, commands]
    exact tables.owed
  releaseFor := by
    rw [releaseFor, commands]
    exact tables.releaseFor

/-- A payload is owed as its command row has it. -/
theorem owed_of_owes (tables : Tables order db saga) {payload : SagaCommandPayload}
    (ofOrder : payload.order = order) (owes : db.Owes payload) :
    saga.owed payload.kind := by
  rcases OrdersDb.owes_iff.mp owes with ⟨trigger, stored⟩
  rw [ofOrder] at stored
  rw [tables.owed, stored]
  simp

theorem releaseFor_of_owes (tables : Tables order db saga)
    {request : StockReleaseRequest} (ofOrder : request.orderReference = order)
    (owes : db.Owes (.stockRelease request)) : saga.releaseFor request.reason := by
  rcases OrdersDb.owes_iff.mp owes with ⟨trigger, stored⟩
  subst ofOrder
  exact (tables.releaseFor _).mpr ⟨trigger, stored⟩

/-- Saving the order commits the version saved. -/
theorem save (tables : Tables order db saga) {saved : Order}
    (ofOrder : saved.props.orderReference = order) :
    Tables order (db.save saved)
      (saga.save (some (saved.props.status, saved.props.cancellationReason))) where
  keyed := tables.keyed.save saved
  current := by
    rw [OrdersDb.save_version ofOrder, ← tables.current]
    rfl
  rows := tables.rows
  owed := tables.owed
  releaseFor := tables.releaseFor

theorem save_of_other (tables : Tables order db saga) {saved : Order}
    (differs : saved.props.orderReference ≠ order) :
    Tables order (db.save saved) saga :=
  tables.congr (tables.keyed.save saved) (OrdersDb.save_version_of_other differs)
    rfl rfl rfl rfl

theorem enqueue_of_other (tables : Tables order db saga) {enqueued : OrderNumber}
    (differs : enqueued ≠ order) (kind : SagaCommandKind) (row : SagaCommandRow) :
    Tables order (db.enqueue enqueued kind row) saga := by
  apply tables.congr
  · intro key stored found
    rw [OrdersDb.enqueue_orders] at found
    exact tables.keyed key stored found
  · apply OrdersDb.version_congr
    · rw [OrdersDb.enqueue_orders]
    · exact OrdersDb.enqueue_commands_of_other differs kind row
  · exact OrdersDb.enqueue_commands_of_other differs kind row
  all_goals rfl

/-- What an enqueued row adds to the commands of its order. -/
theorem enqueue_rows (tables : Tables order db saga) (row : SagaCommandRow)
    (ofOrder : row.payload.order = order) (kind : SagaCommandKind)
    (payload : SagaCommandPayload) (trigger : TriggeringEnvelope)
    (stored : (db.enqueue order row.payload.kind row).commands order kind =
      some (payload, trigger)) :
    payload.order = order ∧ payload.kind = kind := by
  rw [OrdersDb.enqueue_commands] at stored
  split at stored
  · rename_i new
    cases stored
    exact ⟨ofOrder, new.1.2⟩
  · exact tables.rows kind payload trigger stored

theorem enqueue_owed (tables : Tables order db saga) (kind other : SagaCommandKind)
    (row : SagaCommandRow) :
    (other = kind ∨ saga.owed other) ↔
      (db.enqueue order kind row).commands order other ≠ none := by
  rw [OrdersDb.enqueue_commands, tables.owed]
  split
  · rename_i new
    simp [new.1.2]
  · rename_i old
    constructor
    · rintro (rfl | stored) absent
      · exact old ⟨⟨rfl, rfl⟩, absent⟩
      · exact stored absent
    · exact Or.inr

/-- A command enqueued for a fact is owed, a stock release for a rejected credit
unless one is owed already. -/
theorem enqueueForFact (tables : Tables order db saga) {envelope : Envelope}
    {payload : SagaCommandPayload} (enqueues : Enqueues envelope payload)
    (ofOrder : envelope.correlationId = order) (sourceTopic : Topic) :
    Tables order
      (db.enqueue order payload.kind (.enqueued payload (.fact envelope) sourceTopic))
      (saga.oweAfterFact (some payload.kind)) := by
  have payloadOf : payload.order = order := enqueues.ofOrder.trans ofOrder
  have owed := fun other => tables.enqueue_owed payload.kind other
    (.enqueued payload (.fact envelope) sourceTopic)
  constructor
  · intro key stored found
    rw [OrdersDb.enqueue_orders] at found
    exact tables.keyed key stored found
  · have version : (db.enqueue order payload.kind
        (.enqueued payload (.fact envelope) sourceTopic)).version order =
          db.version order := by
      simp only [OrdersDb.version, OrdersDb.statusOf, OrdersDb.enqueue_orders,
        OrdersDb.enqueue_hasAccepted_of_fact]
    rw [version, ← tables.current]
    cases payload <;> rfl
  · exact tables.enqueue_rows (.enqueued payload (.fact envelope) sourceTopic) payloadOf
  · intro other
    rw [← owed other]
    cases payload <;> rfl
  · intro reason
    rw [OrdersDb.enqueue_commands]
    cases payload with
    | stockRelease request =>
        have isRejection := enqueues.release rfl
        rw [ofOrder] at isRejection
        have before := tables.owed .stockRelease
        change saga.releaseFor reason ∨
          ¬ saga.owed .stockRelease ∧ reason = .creditRejected ↔ _
        rw [before, tables.releaseFor, not_not]
        cases stored : db.commands order .stockRelease with
        | none =>
            simp [SagaCommandPayload.kind, SagaCommandRow.record,
              SagaCommandRow.enqueued, isRejection, eq_comm]
        | some record => simp
    | stockReserve | despatchCreate | creditHold | invoiceIssue | creditRelease =>
        rw [if_neg (by rintro ⟨⟨_, absurdity⟩, _⟩; cases absurdity)]
        exact tables.releaseFor reason

/-- The stock release an operator's cancel begins with. -/
theorem beginRelease (tables : Tables order db saga) (note : Option String)
    (first : ¬ saga.owed .stockRelease) :
    Tables order (db.enqueue order .stockRelease (operatorStockReleaseRow order note))
      (((saga.commit { saga.current with accepted := true }).oweRelease
        .orderCancelled).accept) := by
  have absent : db.commands order .stockRelease = none := by
    simpa [tables.owed] using first
  constructor
  · intro key stored found
    rw [OrdersDb.enqueue_orders] at found
    exact tables.keyed key stored found
  · simp [tables.current, OrdersDb.version, OrdersDb.statusOf,
      OrdersDb.enqueue_hasAccepted_of_operator note absent]
  · exact tables.enqueue_rows (operatorStockReleaseRow order note) rfl
  · intro other
    exact tables.enqueue_owed .stockRelease other (operatorStockReleaseRow order note)
  · intro reason
    rw [OrdersDb.enqueue_commands, if_pos ⟨⟨rfl, rfl⟩, absent⟩]
    change saga.releaseFor reason ∨ ¬ saga.owed .stockRelease ∧
      reason = .orderCancelled ↔ _
    rw [tables.releaseFor, absent]
    simp [first, operatorStockReleaseRow, SagaCommandRow.record,
      SagaCommandRow.enqueued, eq_comm]

/-- A stock release that is owed already is left as it is. -/
theorem beginReleaseAgain (tables : Tables order db saga) (note : Option String)
    (owed : saga.owed .stockRelease) :
    Tables order (db.enqueue order .stockRelease (operatorStockReleaseRow order note))
      saga.accept := by
  have stored := (tables.owed .stockRelease).mp owed
  unfold OrdersDb.enqueue
  split
  · rename_i absent
    exact absurd (by simp [OrdersDb.commands, absent]) stored
  · exact tables.congr tables.keyed rfl rfl rfl rfl rfl

/-- What a reaction writes is what carrying it out leaves. -/
theorem carryOut (tables : Tables order db saga) {envelope : Envelope}
    {sourceTopic : Topic} {version : Version} {reaction : Reaction}
    {writes : List OrdersWrite} (ofOrder : envelope.correlationId = order)
    (written : reaction.Writes envelope sourceTopic version writes) :
    Tables order (applyWrites db writes) (saga.carryOut reaction) := by
  subst ofOrder
  cases written with
  | ignored ignored => exact tables.congr tables.keyed rfl rfl rfl rfl rfl
  | late payload enqueues => exact tables.enqueueForFact enqueues rfl sourceTopic
  | saves saved saves => exact tables.save saves.ofOrder
  | savesOwing saved payload saves enqueues =>
      exact (tables.save saves.ofOrder).enqueueForFact enqueues rfl sourceTopic

end Tables

/-! ## Transactions and requests under way -/

/-- What is under way on an order has read a version committed before. -/
structure UnderWay (order : OrderNumber) (outbox : Topic → List Fact)
    (system : OrdersSystem) (saga : OrderSaga) : Prop where
  keyed : ∀ opened ∈ system.openTransactions, opened.snapshot.Keyed
  opened : ∀ opened ∈ system.openTransactions, opened.work.order = order →
    saga.past (opened.snapshot.version order) ∧ saga.current.status ≠ none
  delivered : ∀ opened ∈ system.openTransactions, ∀ envelope sourceTopic,
    opened.work = .handleFact envelope sourceTopic →
      (outbox envelope.eventId.topic)[envelope.eventId.position]? =
          some envelope.fact ∧
        ¬ IsSkipped envelope.eventType
  calls : ∀ call ∈ system.cancelCalls, call.order = order →
    ∀ status ∈ call.statusRead, ∃ read, saga.past read ∧ read.status = some status
  parked : ∀ parked ∈ system.parkedDispatches, parked.order = order →
    saga.current.status ≠ none
  firstParks : ∀ parked ∈ system.firstParks, parked.order = order →
    saga.current.status ≠ none

namespace UnderWay

variable {order : OrderNumber} {outbox outbox' : Topic → List Fact}
  {system system' : OrdersSystem} {saga saga' : OrderSaga}

theorem initial (order : OrderNumber) (outbox : Topic → List Fact) :
    UnderWay order outbox OrdersSystem.initial OrderSaga.initial := by
  constructor <;> simp [OrdersSystem.initial]

/-- Nothing of it is taken back. -/
theorem mono (underWay : UnderWay order outbox system saga)
    (published : ∀ (topic : Topic) (position : Nat) (fact : Fact),
      (outbox topic)[position]? = some fact → (outbox' topic)[position]? = some fact)
    (past : ∀ version, saga.past version → saga'.past version)
    (known : saga.current.status ≠ none → saga'.current.status ≠ none) :
    UnderWay order outbox' system saga' where
  keyed := underWay.keyed
  opened opened openedMem ofOrder :=
    ⟨past _ (underWay.opened opened openedMem ofOrder).1,
      known (underWay.opened opened openedMem ofOrder).2⟩
  delivered opened openedMem envelope sourceTopic work :=
    ⟨published _ _ _ (underWay.delivered opened openedMem envelope sourceTopic work).1,
      (underWay.delivered opened openedMem envelope sourceTopic work).2⟩
  calls call callMem ofOrder status isRead := by
    rcases underWay.calls call callMem ofOrder status isRead with ⟨read, isPast, is⟩
    exact ⟨read, past _ isPast, is⟩
  parked parked parkedMem ofOrder := known (underWay.parked parked parkedMem ofOrder)
  firstParks parked parkedMem ofOrder :=
    known (underWay.firstParks parked parkedMem ofOrder)

/-- What has ended is under way no more. -/
theorem of_subset (underWay : UnderWay order outbox system saga)
    (opened : ∀ opened ∈ system'.openTransactions, opened ∈ system.openTransactions)
    (calls : ∀ call ∈ system'.cancelCalls, call ∈ system.cancelCalls)
    (parked : ∀ parked ∈ system'.parkedDispatches, parked ∈ system.parkedDispatches)
    (firstParks : ∀ parked ∈ system'.firstParks, parked ∈ system.firstParks) :
    UnderWay order outbox system' saga where
  keyed other otherMem := underWay.keyed other (opened other otherMem)
  opened other otherMem := underWay.opened other (opened other otherMem)
  delivered other otherMem := underWay.delivered other (opened other otherMem)
  calls call callMem := underWay.calls call (calls call callMem)
  parked other otherMem := underWay.parked other (parked other otherMem)
  firstParks other otherMem := underWay.firstParks other (firstParks other otherMem)

/-- A transaction opens on the version there is. -/
theorem openTransaction (underWay : UnderWay order outbox system saga)
    (tables : Tables order system.db saga) (current : saga.past saga.current)
    {work : OrdersTransaction}
    (known : work.order = order → saga.current.status ≠ none)
    (delivered : ∀ envelope sourceTopic, work = .handleFact envelope sourceTopic →
      (outbox envelope.eventId.topic)[envelope.eventId.position]? =
          some envelope.fact ∧
        ¬ IsSkipped envelope.eventType) :
    UnderWay order outbox (system.openTransaction work) saga := by
  have cases' : ∀ opened ∈ (system.openTransaction work).openTransactions,
      opened ∈ system.openTransactions ∨ opened = ⟨work, system.db⟩ := by
    intro opened openedMem
    simpa [OrdersSystem.openTransaction] using openedMem
  constructor
  · intro opened openedMem
    rcases cases' opened openedMem with before | rfl
    · exact underWay.keyed opened before
    · exact tables.keyed
  · intro opened openedMem ofOrder
    rcases cases' opened openedMem with before | rfl
    · exact underWay.opened opened before ofOrder
    · exact ⟨tables.current ▸ current, known ofOrder⟩
  · intro opened openedMem envelope sourceTopic isWork
    rcases cases' opened openedMem with before | rfl
    · exact underWay.delivered opened before envelope sourceTopic isWork
    · exact delivered envelope sourceTopic isWork
  · exact underWay.calls
  · exact underWay.parked
  · exact underWay.firstParks

/-- A commit answers, and ends nothing but its own transaction. -/
theorem commits {opened : OpenTransaction}
    (underWay : UnderWay order outbox system saga)
    (committed : OrdersSystem.Commits system opened system') :
    UnderWay order outbox system' saga := by
  cases committed with
  | handleFact | cancelPlaced | onFirstPark =>
      exact underWay.of_subset (fun _ => id) (fun _ => id) (fun _ => id) fun _ => id

/-- The known status of a cancel request is that of the version there is. -/
theorem readForCancel (underWay : UnderWay order outbox system saga)
    (tables : Tables order system.db saga) (current : saga.past saga.current)
    {other : OrderNumber} {note : Option String} {found : Option Order}
    (isFound : system.db.findById other = .ok found) :
    UnderWay order outbox
      { system with
        cancelCalls := system.cancelCalls ++
          [⟨other, note, found.map fun loaded => loaded.props.status⟩] } saga := by
  constructor
  · exact underWay.keyed
  · exact underWay.opened
  · exact underWay.delivered
  · intro call callMem ofOrder status isRead
    rcases List.mem_append.mp callMem with before | new
    · exact underWay.calls call before ofOrder status isRead
    · cases List.mem_singleton.mp new
      subst ofOrder
      refine ⟨saga.current, current, ?_⟩
      cases found with
      | none => cases isRead
      | some loaded =>
          cases isRead
          rcases findById_eq_ok_some isFound with ⟨row, stored, rebuilt⟩
          rw [tables.current]
          change (system.db.version other).status = some loaded.props.status
          rw [(reconstitute_status rebuilt).2.1]
          simp [OrdersDb.version, OrdersDb.statusOf, stored]
  · exact underWay.parked
  · exact underWay.firstParks

/-- Acting on a cancel request may open its transaction. -/
theorem cancelInTransaction (underWay : UnderWay order outbox system saga)
    (tables : Tables order system.db saga) (coherent : saga.Coherent)
    {index : Nat} {call : CancelCall} (waiting : system.cancelCalls[index]? = some call)
    (branch : cancelBranch call.statusRead = .cancelInTransaction) :
    UnderWay order outbox
      ({ system with
          cancelCalls := system.cancelCalls.eraseIdx index }.openTransaction
        (.cancelPlaced call.order)) saga := by
  have rest : UnderWay order outbox
      { system with cancelCalls := system.cancelCalls.eraseIdx index } saga :=
    underWay.of_subset (fun _ => id)
      (fun _ callMem => List.mem_of_mem_eraseIdx callMem) (fun _ => id) fun _ => id
  apply rest.openTransaction tables coherent.current
  · intro ofOrder
    cases isRead : call.statusRead with
    | none => simp [isRead, cancelBranch] at branch
    | some status =>
        rcases underWay.calls call (List.mem_of_getElem? waiting) ofOrder status
          isRead with ⟨read, isPast, isStatus⟩
        apply (coherent.past read isPast).isPlaced
        simp [isStatus]
  · rintro envelope sourceTopic ⟨⟩

/-- An order with a command row is known. -/
theorem known_of_update (tables : Tables order system.db saga)
    (coherent : saga.Coherent) {kind : SagaCommandKind}
    {update : SagaCommandRow → SagaCommandRow} {db : OrdersDb}
    (updated : system.db.updateUnlessSent order kind update = some db) :
    saga.current.status ≠ none := by
  apply coherent.commands.isPlaced kind
  rw [tables.owed]
  unfold OrdersDb.updateUnlessSent at updated
  split at updated
  · cases updated
  · rename_i row stored
    simp [OrdersDb.commands, stored]

/-- Every action of Orders keeps what is under way in the past of the order. -/
theorem step (underWay : UnderWay order outbox system saga)
    (tables : Tables order system.db saga) (coherent : saga.Coherent)
    {action : OrdersAction}
    (delivered : ∀ envelope sourceTopic, action = .beginFact envelope sourceTopic →
      (outbox envelope.eventId.topic)[envelope.eventId.position]? =
          some envelope.fact ∧
        (envelope.correlationId = order → ¬ IsSkipped envelope.eventType →
          saga.current.status ≠ none))
    (stepped : OrdersSystem.step system action = some system') :
    UnderWay order outbox system' saga := by
  cases OrdersSystem.moves_of_step stepped with
  | place | markSent | markRejected =>
      exact underWay.of_subset (fun _ => id) (fun _ => id) (fun _ => id) fun _ => id
  | beginFact envelope sourceTopic heeded =>
      rcases delivered envelope sourceTopic rfl with ⟨published, known⟩
      apply underWay.openTransaction tables coherent.current
      · exact fun ofOrder => known ofOrder heeded
      · rintro _ _ ⟨⟩
        exact ⟨published, heeded⟩
  | readForCancel other note found isFound =>
      exact underWay.readForCancel tables coherent.current isFound
  | notFound | beginStockRelease =>
      exact underWay.of_subset (fun _ => id)
        (fun _ callMem => List.mem_of_mem_eraseIdx callMem) (fun _ => id) fun _ => id
  | cancelInTransaction index call waiting branch =>
      exact underWay.cancelInTransaction tables coherent waiting branch
  | commit index opened _ found committed =>
      have rest : UnderWay order outbox
          { system with
            openTransactions := system.openTransactions.eraseIdx index } saga :=
        underWay.of_subset (fun _ openedMem => List.mem_of_mem_eraseIdx openedMem)
          (fun _ => id) (fun _ => id) fun _ => id
      exact rest.commits committed
  | rollback =>
      exact underWay.of_subset
        (fun _ openedMem => List.mem_of_mem_eraseIdx openedMem) (fun _ => id)
        (fun _ => id) fun _ => id
  | park other kind attempts lastError db updated =>
      constructor
      · exact underWay.keyed
      · exact underWay.opened
      · exact underWay.delivered
      · exact underWay.calls
      · intro parked parkedMem ofOrder
        rcases List.mem_append.mp parkedMem with before | new
        · exact underWay.parked parked before ofOrder
        · cases List.mem_singleton.mp new
          subst ofOrder
          exact known_of_update tables coherent updated
      · exact underWay.firstParks
  | alreadyClaimed =>
      exact underWay.of_subset (fun _ => id) (fun _ => id)
        (fun _ parkedMem => List.mem_of_mem_eraseIdx parkedMem) fun _ => id
  | claimDeadLetter index parked db found claimed =>
      constructor
      · exact underWay.keyed
      · exact underWay.opened
      · exact underWay.delivered
      · exact underWay.calls
      · exact fun other otherMem =>
          underWay.parked other (List.mem_of_mem_eraseIdx otherMem)
      · intro other otherMem ofOrder
        rcases List.mem_append.mp otherMem with before | new
        · exact underWay.firstParks other before ofOrder
        · cases List.mem_singleton.mp new
          exact underWay.parked parked (List.mem_of_getElem? found) ofOrder
  | beginFirstPark index parked found =>
      have rest : UnderWay order outbox
          { system with firstParks := system.firstParks.eraseIdx index } saga :=
        underWay.of_subset (fun _ => id) (fun _ => id) (fun _ => id)
          fun _ parkedMem => List.mem_of_mem_eraseIdx parkedMem
      apply rest.openTransaction tables coherent.current
      · exact underWay.firstParks parked (List.mem_of_getElem? found)
      · rintro envelope sourceTopic ⟨⟩

end UnderWay

end OrderToCash.Saga
