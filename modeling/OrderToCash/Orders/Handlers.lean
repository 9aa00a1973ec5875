import OrderToCash.Orders.Store

/-!
# The transactions that write an order

Three bodies load an order from the database their transaction reads and decide
what it writes: the fact handler, the placed branch of the operator's cancel,
and the dead-letter hook of a command parked for the first time.  What a body
decides is a list of writes; the writes are applied to the database as it is
when the transaction commits.
-/

namespace OrderToCash.Orders

open OrderToCash.Checked
open OrderToCash.Contracts
open OrderToCash.Kernel

/-- One statement of a transaction's body. -/
inductive OrdersWrite
  | save (order : Order)
  | enqueue (order : OrderNumber) (kind : SagaCommandKind) (row : SagaCommandRow)
  | recordIgnored (ignored : IgnoredFact)
deriving DecidableEq, Repr

def OrdersWrite.apply (db : OrdersDb) : OrdersWrite → OrdersDb
  | .save order => db.save order
  | .enqueue order kind row => db.enqueue order kind row
  | .recordIgnored ignored => db.recordIgnored ignored

/-- Apply a transaction's writes in order. -/
def applyWrites (db : OrdersDb) : List OrdersWrite → OrdersDb
  | [] => db
  | write :: rest => applyWrites (write.apply db) rest

/-! ## SagaFactHandler.handle -/

/-- What the body of a fact's transaction decided. -/
structure FactWork where
  writes : List OrdersWrite
  ignored : Bool
  enqueued : Option SagaCommandKind
deriving DecidableEq, Repr

def FactWork.ignore (envelope : Envelope) (order : Option OrderNumber)
    (observedStatus : Option OrderStatus) (marker : IgnoredFactMarker) :
    FactWork :=
  { writes := [.recordIgnored
      { eventId := envelope.eventId
        eventType := envelope.eventType
        orderId := order
        correlationId := envelope.correlationId
        observedStatus := observedStatus
        expectedStatus := soleExpectedStatus envelope.eventType
        marker := marker }]
    ignored := true
    enqueued := none }

/-- The row the handler enqueues for a fact. -/
def enqueueForFact (kind : SagaCommandKind) (order : OrderProps)
    (envelope : Envelope) (sourceTopic : Topic) :
    Except HandlerError OrdersWrite := do
  let payload ← buildSagaCommandPayload kind order envelope
  .ok (.enqueue order.orderReference kind
    (SagaCommandRow.enqueued payload (.fact envelope) sourceTopic))

/-- A credit approval that arrives for an accepted operator cancel: the order
is cancelled by the operator, or still `stock_reserved` with the release under
way. -/
def LateForAcceptedOperatorCancel (db : OrdersDb) (order : OrderProps)
    (envelope : Envelope) : Prop :=
  envelope.eventType = .creditApproved ∧
    if order.status = .cancelled then
      order.cancellationReason = some .operatorCancelled
    else
      order.status = .stockReserved ∧
        db.hasAcceptedOperatorCancel order.orderReference = true

instance (db : OrdersDb) (order : OrderProps) (envelope : Envelope) :
    Decidable (LateForAcceptedOperatorCancel db order envelope) := by
  unfold LateForAcceptedOperatorCancel
  infer_instance

/-- Run the selected step on the loaded order. -/
def runStep (step : SagaStep) (order : Order) (envelope : Envelope)
    (sourceTopic : Topic) : Except HandlerError FactWork :=
  match step with
  | .skip => .ok ⟨[], false, none⟩
  | .advance _ apply commandAfter => do
      let advanced ← (apply order).mapError HandlerError.order
      match commandAfter with
      | none => .ok ⟨[.save advanced], false, none⟩
      | some kind => do
          let enqueue ←
            enqueueForFact kind advanced.props envelope sourceTopic
          .ok ⟨[.save advanced, enqueue], false, some kind⟩
  | .cancel _ reason compensationSteps => do
      let reason ← reason envelope.fact
      let cancelled ←
        (order.cancel reason (compensationSteps envelope)).mapError
          HandlerError.order
      .ok ⟨[.save cancelled], false, none⟩

/-- The transactional body of `handle`. -/
def handleFact (db : OrdersDb) (envelope : Envelope) (sourceTopic : Topic) :
    Except HandlerError FactWork := do
  let found ← (db.findById envelope.correlationId).mapError HandlerError.order
  match found with
  | none => .ok (FactWork.ignore envelope none none .unknownOrder)
  | some order =>
      if LateForAcceptedOperatorCancel db order.props envelope then do
        let enqueue ←
          enqueueForFact .creditRelease order.props envelope sourceTopic
        .ok ⟨[enqueue], false, some .creditRelease⟩
      else
        match stepForStatus envelope.eventType order.props.status with
        | none =>
            .ok (FactWork.ignore envelope (some order.props.orderReference)
              (some order.props.status) .preconditionUnmet)
        | some step => runStep step order envelope sourceTopic

/-! ## CancelOrderHandler.execute -/

inductive PlannedCompensation
  | stockRelease
  | creditRelease
deriving DecidableEq, Repr

/-- The reply of a cancel request. -/
inductive CancelOutcome
  | notFound
  | notCancellable (status : OrderStatus)
  | compensationPending (status : OrderStatus)
      (planned : List PlannedCompensation)
  | cancelled
deriving DecidableEq, Repr

/-- What the status read outside any transaction makes of a cancel request. -/
inductive CancelBranch
  | notFound
  | beginStockRelease (status : OrderStatus)
      (planned : List PlannedCompensation)
  | cancelInTransaction
deriving DecidableEq, Repr

def cancelBranch : Option OrderStatus → CancelBranch
  | none => .notFound
  | some .creditApproved =>
      .beginStockRelease .creditApproved [.stockRelease, .creditRelease]
  | some .confirmed =>
      .beginStockRelease .confirmed [.stockRelease, .creditRelease]
  | some .stockReserved => .beginStockRelease .stockReserved [.stockRelease]
  | some _ => .cancelInTransaction

/-- The row `beginStockReleaseCompensation` enqueues. -/
def operatorStockReleaseRow (order : OrderNumber) (note : Option String) :
    SagaCommandRow :=
  SagaCommandRow.enqueued (.stockRelease ⟨order, .orderCancelled⟩)
    (.operatorCancel order note) .orders

/-- The placed branch: the aggregate's own guard decides. -/
def cancelPlaced (db : OrdersDb) (orderReference : OrderNumber) :
    Except HandlerError (List OrdersWrite × CancelOutcome) := do
  let found ← (db.findById orderReference).mapError HandlerError.order
  match found with
  | none => .ok ([], .notFound)
  | some order =>
      match order.cancel .operatorCancelled [] with
      | .ok cancelled => .ok ([.save cancelled], .cancelled)
      | .error (.transitionNotAllowed _ status _) =>
          .ok ([], .notCancellable status)
      | .error error => .error (.order error)

/-! ## SagaFirstParkDeadLetterHandler.onFirstPark -/

def onFirstPark (db : OrdersDb) (orderReference : OrderNumber)
    (failure : SagaFailureInput) : Except HandlerError (List OrdersWrite) := do
  let found ← (db.findById orderReference).mapError HandlerError.order
  match found with
  | none => .ok []
  | some order => .ok [.save (order.recordSagaFailure failure)]

/-! ## What the bodies write -/

/-- Whatever a transaction writes, stored orders keep their keys. -/
theorem Keyed.applyWrites {db : OrdersDb} (keyed : db.Keyed)
    (writes : List OrdersWrite) : (applyWrites db writes).Keyed := by
  induction writes generalizing db with
  | nil => exact keyed
  | cons write rest inductionHypothesis =>
      refine inductionHypothesis ?_
      cases write with
      | save order => exact keyed.save order
      | enqueue order kind row =>
          intro key stored found
          rw [OrdersWrite.apply, OrdersDb.enqueue_orders] at found
          exact keyed key stored found
      | recordIgnored ignored => exact keyed

/-- A loaded order is the rebuilt row of its key. -/
theorem findById_eq_ok_some {db : OrdersDb} {order : OrderNumber} {loaded : Order}
    (found : db.findById order = .ok (some loaded)) :
    ∃ row, db.orders order = some row ∧ Order.reconstitute row = .ok loaded := by
  unfold OrdersDb.findById at found
  cases stored : db.orders order with
  | none => simp [stored] at found
  | some row =>
      refine ⟨row, rfl, ?_⟩
      cases rebuilt : Order.reconstitute row with
      | error error => simp [stored, rebuilt, Except.map] at found
      | ok order => simpa [stored, rebuilt, Except.map] using found

theorem findById_eq_ok_none {db : OrdersDb} {order : OrderNumber}
    (found : db.findById order = .ok none) : db.orders order = none := by
  unfold OrdersDb.findById at found
  cases stored : db.orders order with
  | none => rfl
  | some row =>
      cases rebuilt : Order.reconstitute row with
      | error error => simp [stored, rebuilt, Except.map] at found
      | ok order => simp [stored, rebuilt, Except.map] at found

/-- The writes of a fact's body, by the branch the body takes on the database
it reads. -/
inductive FactWrites (db : OrdersDb) (envelope : Envelope) (sourceTopic : Topic) :
    List OrdersWrite → Prop
  | unknownOrder (ignored : IgnoredFact)
      (absent : db.orders envelope.correlationId = none)
      (marker : ignored.marker = .unknownOrder) :
      FactWrites db envelope sourceTopic [.recordIgnored ignored]
  | late (loaded : Order) (payload : SagaCommandPayload)
      (found : db.findById envelope.correlationId = .ok (some loaded))
      (isLate : LateForAcceptedOperatorCancel db loaded.props envelope)
      (built : buildSagaCommandPayload .creditRelease loaded.props envelope =
        .ok payload) :
      FactWrites db envelope sourceTopic
        [.enqueue loaded.props.orderReference .creditRelease
          (.enqueued payload (.fact envelope) sourceTopic)]
  | preconditionUnmet (loaded : Order) (ignored : IgnoredFact)
      (found : db.findById envelope.correlationId = .ok (some loaded))
      (onTime : ¬ LateForAcceptedOperatorCancel db loaded.props envelope)
      (noStep : stepForStatus envelope.eventType loaded.props.status = none)
      (sameFact : ignored.eventId = envelope.eventId)
      (marker : ignored.marker = .preconditionUnmet) :
      FactWrites db envelope sourceTopic [.recordIgnored ignored]
  | advance (loaded saved : Order) (precondition : OrderStatus)
      (apply : Order → Except OrderError Order)
      (found : db.findById envelope.correlationId = .ok (some loaded))
      (onTime : ¬ LateForAcceptedOperatorCancel db loaded.props envelope)
      (step : stepForStatus envelope.eventType loaded.props.status =
        some (.advance precondition apply none))
      (savedProps : saved.props =
        { loaded.props with
          status := advancedStatus envelope.eventType loaded.props.status }) :
      FactWrites db envelope sourceTopic [.save saved]
  | advanceOwing (loaded saved : Order) (precondition : OrderStatus)
      (apply : Order → Except OrderError Order) (kind : SagaCommandKind)
      (payload : SagaCommandPayload)
      (found : db.findById envelope.correlationId = .ok (some loaded))
      (onTime : ¬ LateForAcceptedOperatorCancel db loaded.props envelope)
      (step : stepForStatus envelope.eventType loaded.props.status =
        some (.advance precondition apply (some kind)))
      (savedProps : saved.props =
        { loaded.props with
          status := advancedStatus envelope.eventType loaded.props.status })
      (built : buildSagaCommandPayload kind saved.props envelope = .ok payload) :
      FactWrites db envelope sourceTopic
        [.save saved, .enqueue saved.props.orderReference kind
          (.enqueued payload (.fact envelope) sourceTopic)]
  | cancel (loaded saved : Order) (precondition : OrderStatus)
      (mapped : Fact → Except HandlerError CancellationReason)
      (compensationSteps : Envelope → List CompensationStep)
      (reason : CancellationReason)
      (found : db.findById envelope.correlationId = .ok (some loaded))
      (onTime : ¬ LateForAcceptedOperatorCancel db loaded.props envelope)
      (step : stepForStatus envelope.eventType loaded.props.status =
        some (.cancel precondition mapped compensationSteps))
      (reasonMapped : mapped envelope.fact = .ok reason)
      (cancelled : loaded.cancel reason (compensationSteps envelope) = .ok saved) :
      FactWrites db envelope sourceTopic [.save saved]

/-- Every successful body of a fact's transaction takes one of the branches. -/
theorem handleFact_writes {db : OrdersDb} {envelope : Envelope}
    {sourceTopic : Topic} {work : FactWork}
    (handled : handleFact db envelope sourceTopic = .ok work) :
    FactWrites db envelope sourceTopic work.writes := by
  simp only [handleFact, bind_eq_ok_iff, mapError_eq_ok_iff] at handled
  rcases handled with ⟨found, read, handled⟩
  cases found with
  | none =>
      cases handled
      exact .unknownOrder _ (findById_eq_ok_none read) rfl
  | some loaded =>
      by_cases isLate : LateForAcceptedOperatorCancel db loaded.props envelope
      · simp only [if_pos isLate, enqueueForFact, bind_eq_ok_iff,
          Except.ok.injEq] at handled
        rcases handled with ⟨enqueue, ⟨payload, built, rfl⟩, rfl⟩
        exact .late loaded payload read isLate built
      · simp only [if_neg isLate] at handled
        cases selected : stepForStatus envelope.eventType loaded.props.status with
        | none =>
            simp only [selected, Except.ok.injEq] at handled
            subst handled
            exact .preconditionUnmet loaded _ read isLate selected rfl rfl
        | some step =>
            simp only [selected] at handled
            cases step with
            | skip =>
                have precondition := (mem_of_stepForStatus selected).2
                simp [SagaStep.precondition?] at precondition
            | advance precondition apply commandAfter =>
                simp only [runStep, bind_eq_ok_iff, mapError_eq_ok_iff] at handled
                rcases handled with ⟨saved, applied, handled⟩
                have savedProps := advance_props selected applied
                cases commandAfter with
                | none =>
                    cases handled
                    exact .advance loaded saved precondition apply read isLate
                      selected savedProps
                | some kind =>
                    simp only [enqueueForFact, bind_eq_ok_iff,
                      Except.ok.injEq] at handled
                    rcases handled with ⟨enqueue, ⟨payload, built, rfl⟩, rfl⟩
                    exact .advanceOwing loaded saved precondition apply kind
                      payload read isLate selected savedProps built
            | cancel precondition mapped compensationSteps =>
                simp only [runStep, bind_eq_ok_iff, mapError_eq_ok_iff,
                  Except.ok.injEq] at handled
                rcases handled with ⟨reason, reasonMapped, saved, cancelled, rfl⟩
                exact .cancel loaded saved precondition mapped compensationSteps
                  reason read isLate selected reasonMapped cancelled

/-- The placed branch writes a cancelled order, or nothing where the order is
absent or past cancelling. -/
theorem cancelPlaced_writes {db : OrdersDb} {order : OrderNumber}
    {writes : List OrdersWrite} {outcome : CancelOutcome}
    (decided : cancelPlaced db order = .ok (writes, outcome)) :
    (writes = [] ∧ outcome ≠ .cancelled ∧
        (db.findById order = .ok none ∨
          ∃ loaded, db.findById order = .ok (some loaded) ∧
            ¬ loaded.props.status.IsCancellable)) ∨
      ∃ loaded saved, db.findById order = .ok (some loaded) ∧
        loaded.cancel .operatorCancelled [] = .ok saved ∧
        writes = [.save saved] ∧ outcome = .cancelled := by
  simp only [cancelPlaced, bind_eq_ok_iff, mapError_eq_ok_iff] at decided
  rcases decided with ⟨found, read, decided⟩
  cases found with
  | none =>
      cases decided
      exact Or.inl ⟨rfl, by decide, Or.inl read⟩
  | some loaded =>
      cases attempted : loaded.cancel .operatorCancelled [] with
      | ok saved =>
          simp only [attempted, Except.ok.injEq, Prod.mk.injEq] at decided
          exact Or.inr ⟨loaded, saved, read, attempted, decided.1.symm,
            decided.2.symm⟩
      | error error =>
          have notCancellable : ¬ loaded.props.status.IsCancellable := by
            intro cancellable
            rcases Order.operatorCancel_isOk [] cancellable with ⟨saved, accepted⟩
            rw [attempted] at accepted
            cases accepted
          simp only [attempted] at decided
          split at decided
          · rename_i impossible
            cases impossible
          · cases decided
            exact Or.inl ⟨rfl, by simp, Or.inr ⟨loaded, read, notCancellable⟩⟩
          · cases decided

/-- The dead-letter hook writes the order back as it loaded it. -/
theorem onFirstPark_writes {db : OrdersDb} {order : OrderNumber}
    {failure : SagaFailureInput} {writes : List OrdersWrite}
    (decided : onFirstPark db order failure = .ok writes) :
    (writes = [] ∧ db.findById order = .ok none) ∨
      ∃ loaded, db.findById order = .ok (some loaded) ∧
        writes = [.save (loaded.recordSagaFailure failure)] := by
  simp only [onFirstPark, bind_eq_ok_iff, mapError_eq_ok_iff] at decided
  rcases decided with ⟨found, read, decided⟩
  cases found with
  | none =>
      cases decided
      exact Or.inl ⟨rfl, read⟩
  | some loaded =>
      cases decided
      exact Or.inr ⟨loaded, read, rfl⟩

end OrderToCash.Orders
