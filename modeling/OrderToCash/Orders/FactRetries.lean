import OrderToCash.Checked.Retry
import OrderToCash.Orders.Handlers
import OrderToCash.Orders.Placement

/-!
# A fact's transaction, attempted again

The handler's transaction is run again when the database aborts it for a lock.
Whether the fact was ignored and what it owes are variables around the
transaction: an attempt that is undone leaves them as it set them.
-/

namespace OrderToCash.Orders

open OrderToCash.Checked
open OrderToCash.Contracts
open OrderToCash.Kernel

/-! ## One attempt -/

/-- The statements of a fact's transaction. -/
inductive FactStatement
  | begin
  | insertProcessed
  | findOrder
  | readOperatorCancel
  | recordIgnored
  | saveOrder
  | enqueueCommand
  | commit
deriving DecidableEq, Repr

/-- What one attempt meets: the database as its transaction reads it, and the
statement that the driver refuses, if any, with its error code. -/
structure FactAttempt where
  db : OrdersDb
  refusal : Option (FactStatement × String)

inductive AttemptError
  | driver (code : String)
  | duplicateEvent
  | handler (error : HandlerError)
deriving DecidableEq, Repr

def retryableLockErrorCodes : List String :=
  ["ER_LOCK_DEADLOCK", "ER_LOCK_WAIT_TIMEOUT"]

/-- Only a lock error of the driver is retried. -/
def isRetryable : AttemptError → Bool
  | .driver code => code ∈ retryableLockErrorCodes
  | .duplicateEvent => false
  | .handler _ => false

/-- The variables of a call, and what its transaction committed. -/
structure FactCall where
  enqueued : Option SagaCommandKind
  ignored : Bool
  committed : Option (List OrdersWrite)
deriving DecidableEq, Repr

def FactCall.initial : FactCall :=
  { enqueued := none, ignored := false, committed := none }

namespace FactAttempt

/-- The driver's answer to a statement. -/
def answer (attempt : FactAttempt) (statement : FactStatement) :
    Except AttemptError Unit :=
  match attempt.refusal with
  | none => .ok ()
  | some (refused, code) =>
      if refused = statement then .error (.driver code) else .ok ()

def send (attempt : FactAttempt) (statement : FactStatement) :
    EStateM AttemptError FactCall Unit :=
  ofExcept (attempt.answer statement)

/-- It is its commit that the driver refuses. -/
def AtCommit (attempt : FactAttempt) : Prop :=
  attempt.refusal.map Prod.fst = some .commit

instance (attempt : FactAttempt) : Decidable attempt.AtCommit :=
  inferInstanceAs (Decidable (_ = _))

end FactAttempt

/-- A check of the application's own. -/
def check {α : Type} (result : Except HandlerError α) :
    EStateM AttemptError FactCall α :=
  ofExcept (result.mapError AttemptError.handler)

/-- Record the fact as ignored, then say so. -/
def recordIgnored (attempt : FactAttempt) (work : FactWork) :
    EStateM AttemptError FactCall (List OrdersWrite) := do
  attempt.send .recordIgnored
  modify fun call => { call with ignored := true }
  pure work.writes

/-- Enqueue a command, then say so. -/
def enqueueCommand (attempt : FactAttempt) (earlier : List OrdersWrite)
    (kind : SagaCommandKind) (order : OrderProps) (envelope : Envelope)
    (sourceTopic : Topic) : EStateM AttemptError FactCall (List OrdersWrite) := do
  let enqueue ← check (enqueueForFact kind order envelope sourceTopic)
  attempt.send .enqueueCommand
  modify fun call => { call with enqueued := some kind }
  pure (earlier ++ [enqueue])

/-- The accepted cancel is read for an approval at `stock_reserved` only. -/
def readLateApproval (attempt : FactAttempt) (order : OrderProps)
    (envelope : Envelope) : EStateM AttemptError FactCall Unit :=
  if envelope.eventType = .creditApproved ∧ order.status = .stockReserved then
    attempt.send .readOperatorCancel
  else
    pure ()

/-- Run the selected step on the loaded order. -/
def stepWork (attempt : FactAttempt) (step : SagaStep) (order : Order)
    (envelope : Envelope) (sourceTopic : Topic) :
    EStateM AttemptError FactCall (List OrdersWrite) :=
  match step with
  | .skip => pure []
  | .advance _ apply commandAfter => do
      let advanced ← check ((apply order).mapError HandlerError.order)
      attempt.send .saveOrder
      match commandAfter with
      | none => pure [.save advanced]
      | some kind =>
          enqueueCommand attempt [.save advanced] kind advanced.props envelope
            sourceTopic
  | .cancel _ reason compensationSteps => do
      let reason ← check (reason envelope.fact)
      let cancelled ← check
        ((order.cancel reason (compensationSteps envelope)).mapError
          HandlerError.order)
      attempt.send .saveOrder
      pure [.save cancelled]

/-- The closure `handle` passes to `runOnce`, statement by statement. -/
def factWork (attempt : FactAttempt) (envelope : Envelope) (sourceTopic : Topic) :
    EStateM AttemptError FactCall (List OrdersWrite) := do
  attempt.send .findOrder
  let found ← check
    ((attempt.db.findById envelope.correlationId).mapError HandlerError.order)
  match found with
  | none =>
      recordIgnored attempt (FactWork.ignore envelope none none .unknownOrder)
  | some order => do
      readLateApproval attempt order.props envelope
      if LateForAcceptedOperatorCancel attempt.db order.props envelope then
        enqueueCommand attempt [] .creditRelease order.props envelope sourceTopic
      else
        match stepForStatus envelope.eventType order.props.status with
        | none =>
            recordIgnored attempt
              (FactWork.ignore envelope (some order.props.orderReference)
                (some order.props.status) .preconditionUnmet)
        | some step => stepWork attempt step order envelope sourceTopic

/-- The insert that comes first refuses an event the consumer has processed. -/
def recordProcessedEvent (attempt : FactAttempt) (envelope : Envelope) :
    Except AttemptError Unit :=
  if envelope.eventId ∈ attempt.db.processedEvents then .error .duplicateEvent
  else .ok ()

/-- One transaction of the unit of work. -/
def transaction (attempt : FactAttempt) (envelope : Envelope)
    (sourceTopic : Topic) : EStateM AttemptError FactCall Unit := do
  attempt.send .begin
  attempt.send .insertProcessed
  ofExcept (recordProcessedEvent attempt envelope)
  let writes ← factWork attempt envelope sourceTopic
  attempt.send .commit
  modify fun call => { call with committed := some writes }

/-! ## The call -/

/-- `DrizzleUnitOfWork.execute`, for so many attempts in all; the unit of work
allows `maxAttempts`. -/
def executeAttempts (attemptsAllowed : Nat) (attempts : Nat → FactAttempt)
    (envelope : Envelope) (sourceTopic : Topic) :
    EStateM AttemptError FactCall Unit :=
  retry isRetryable (fun attempt => transaction (attempts attempt) envelope sourceTopic)
    (attemptsAllowed - 1) 0

inductive ConsumptionOutcome
  | processed
  | duplicate
deriving DecidableEq, Repr

/-- `IdempotentConsumer.runOnce`. -/
def runOnce (attemptsAllowed : Nat) (attempts : Nat → FactAttempt)
    (envelope : Envelope) (sourceTopic : Topic) :
    EStateM AttemptError FactCall ConsumptionOutcome :=
  tryCatch
    (do
      executeAttempts attemptsAllowed attempts envelope sourceTopic
      pure .processed)
    fun error =>
      match error with
      | .duplicateEvent => pure .duplicate
      | other => throw other

inductive SagaFactOutcome
  | processed
  | duplicate
  | ignored
deriving DecidableEq, Repr

structure SagaFactResult where
  outcome : SagaFactOutcome
  enqueued : Option SagaCommandKind
deriving DecidableEq, Repr

/-- The result read from the variables once the transaction is over. -/
def resultOf (outcome : ConsumptionOutcome) (call : FactCall) : SagaFactResult :=
  match outcome with
  | .duplicate => ⟨.duplicate, none⟩
  | .processed =>
      if call.ignored then ⟨.ignored, none⟩ else ⟨.processed, call.enqueued⟩

/-- `SagaFactHandler.handle`. -/
def handle (attemptsAllowed : Nat) (attempts : Nat → FactAttempt)
    (envelope : Envelope) (sourceTopic : Topic) :
    EStateM AttemptError FactCall SagaFactResult :=
  if IsSkipped envelope.eventType then
    pure ⟨.processed, none⟩
  else do
    let outcome ← runOnce attemptsAllowed attempts envelope sourceTopic
    let call ← get
    pure (resultOf outcome call)

/-! ## The fast path -/

/-- The events the command handlers publish. -/
inductive DispatchOwedEvent
  | orderPlacedFactRecorded
  | orderMarkedStockReserved
  | orderConfirmed
  | lateCreditApprovalRecorded
  | creditRejectionRecorded
  | stockReleasedForCancellationRecorded
  | orderMarkedDespatched
deriving DecidableEq, Repr

/-- The event a fact's command handler publishes for a processed fact that owes
a command; the handlers of the other facts publish none. -/
def publishedEvent (enqueued : SagaCommandKind) : EventType → Option DispatchOwedEvent
  | .orderPlaced => some .orderPlacedFactRecorded
  | .stockReserved => some .orderMarkedStockReserved
  | .creditApproved =>
      if enqueued = .creditRelease then some .lateCreditApprovalRecorded
      else some .orderConfirmed
  | .creditRejected => some .creditRejectionRecorded
  | .stockReleased => some .stockReleasedForCancellationRecorded
  | .orderDespatched => some .orderMarkedDespatched
  | _ => none

/-- The command each published event is mapped to. -/
def dispatchOwedCommand : DispatchOwedEvent → SagaCommandKind
  | .orderPlacedFactRecorded => .stockReserve
  | .orderMarkedStockReserved => .creditHold
  | .orderConfirmed => .despatchCreate
  | .lateCreditApprovalRecorded => .creditRelease
  | .creditRejectionRecorded => .stockRelease
  | .stockReleasedForCancellationRecorded => .creditRelease
  | .orderMarkedDespatched => .invoiceIssue

/-- The command the fast path issues for a result. -/
def fastPath (eventType : EventType) (result : SagaFactResult) :
    Option SagaCommandKind :=
  match result.outcome, result.enqueued with
  | .processed, some enqueued =>
      (publishedEvent enqueued eventType).map dispatchOwedCommand
  | _, _ => none

/-! ## What a fact asks of a state -/

/-- The fact is ignored: its order is unknown, or none of its variants is for the
order's status. -/
def ignoresFact (db : OrdersDb) (envelope : Envelope) : Bool :=
  match db.findById envelope.correlationId with
  | .error _ => false
  | .ok none => true
  | .ok (some order) =>
      !decide (LateForAcceptedOperatorCancel db order.props envelope) &&
        (stepForStatus envelope.eventType order.props.status).isNone

/-- The command that is owed after the fact. -/
def owedAfter (db : OrdersDb) (envelope : Envelope) : Option SagaCommandKind :=
  match db.findById envelope.correlationId with
  | .error _ => none
  | .ok none => none
  | .ok (some order) =>
      if LateForAcceptedOperatorCancel db order.props envelope then
        some .creditRelease
      else
        match stepForStatus envelope.eventType order.props.status with
        | some (.advance _ _ commandAfter) => commandAfter
        | _ => none

def OrdersWrite.enqueuedKind? : OrdersWrite → Option SagaCommandKind
  | .enqueue _ kind _ => some kind
  | .save _ => none
  | .recordIgnored _ => none

/-! ## What an attempt makes of the variables -/

/-- The variables after a body that ran to its end. -/
def FactCall.assign (call : FactCall) (work : FactWork) : FactCall :=
  { call with
    enqueued := work.enqueued.or call.enqueued
    ignored := call.ignored || work.ignored }

/-- The action decides what the work says and assigns its variables last: it
either comes to the work's outcome or is stopped by a refusal before the commit,
and when it throws the variables are as they were. -/
def Follows (attempt : FactAttempt)
    (action : EStateM AttemptError FactCall (List OrdersWrite))
    (work : Except HandlerError FactWork) : Prop :=
  ∃ outcome : Except AttemptError FactWork,
    (∀ call, action.run call =
      match outcome with
      | .ok done => .ok done.writes (call.assign done)
      | .error error => .error error call) ∧
    (outcome = work.mapError AttemptError.handler ∨
      ∃ statement code, attempt.refusal = some (statement, code) ∧
        statement ≠ .commit ∧ outcome = .error (.driver code))

theorem answer_eq (attempt : FactAttempt) (statement : FactStatement) :
    attempt.answer statement = .ok () ∨
      ∃ code, attempt.refusal = some (statement, code) ∧
        attempt.answer statement = .error (.driver code) := by
  unfold FactAttempt.answer
  cases attempt.refusal with
  | none => exact .inl rfl
  | some refusal =>
      obtain ⟨refused, code⟩ := refusal
      by_cases same : refused = statement
      · subst same
        exact .inr ⟨code, rfl, if_pos rfl⟩
      · exact .inl (if_neg same)

theorem Follows.send {attempt : FactAttempt} {statement : FactStatement}
    {rest : EStateM AttemptError FactCall (List OrdersWrite)}
    {work : Except HandlerError FactWork} (inBody : statement ≠ .commit)
    (follows : Follows attempt rest work) :
    Follows attempt (attempt.send statement >>= fun _ => rest) work := by
  rcases answer_eq attempt statement with granted | ⟨code, refusal, refused⟩
  · obtain ⟨outcome, runs, isWork⟩ := follows
    refine ⟨outcome, fun call => ?_, isWork⟩
    rw [FactAttempt.send, granted, EStateM.run_bind, run_ofExcept]
    exact runs call
  · refine ⟨.error (.driver code), fun call => ?_,
      .inr ⟨statement, code, refusal, inBody, rfl⟩⟩
    rw [FactAttempt.send, refused, EStateM.run_bind, run_ofExcept]

theorem Follows.check {α : Type} {attempt : FactAttempt}
    {result : Except HandlerError α}
    {rest : α → EStateM AttemptError FactCall (List OrdersWrite)}
    {work : α → Except HandlerError FactWork}
    (follows : ∀ value, result = .ok value →
      Follows attempt (rest value) (work value)) :
    Follows attempt (check result >>= rest) (result >>= work) := by
  cases result with
  | error error =>
      refine ⟨.error (.handler error), fun call => ?_, .inl rfl⟩
      rw [Orders.check, EStateM.run_bind, run_ofExcept]
      rfl
  | ok value =>
      obtain ⟨outcome, runs, isWork⟩ := follows value rfl
      refine ⟨outcome, fun call => ?_, isWork⟩
      rw [Orders.check, EStateM.run_bind, run_ofExcept]
      exact runs call

theorem Follows.done {attempt : FactAttempt}
    {action : EStateM AttemptError FactCall (List OrdersWrite)} {work : FactWork}
    (runs : ∀ call, action.run call = .ok work.writes (call.assign work)) :
    Follows attempt action (.ok work) :=
  ⟨.ok work, runs, .inl rfl⟩

theorem follows_recordIgnored (attempt : FactAttempt) (envelope : Envelope)
    (order : Option OrderNumber) (observedStatus : Option OrderStatus)
    (marker : IgnoredFactMarker) :
    Follows attempt
      (recordIgnored attempt (FactWork.ignore envelope order observedStatus marker))
      (.ok (FactWork.ignore envelope order observedStatus marker)) := by
  unfold recordIgnored
  apply Follows.send (by decide)
  apply Follows.done
  intro call
  simp only [EStateM.run_bind, EStateM.run_modify, EStateM.run_pure,
    FactCall.assign, FactWork.ignore, Option.none_or, Bool.or_true]

theorem follows_enqueueCommand (attempt : FactAttempt) (earlier : List OrdersWrite)
    (kind : SagaCommandKind) (order : OrderProps) (envelope : Envelope)
    (sourceTopic : Topic) :
    Follows attempt
      (enqueueCommand attempt earlier kind order envelope sourceTopic)
      (do
        let enqueue ← enqueueForFact kind order envelope sourceTopic
        .ok ⟨earlier ++ [enqueue], false, some kind⟩) := by
  unfold enqueueCommand
  apply Follows.check
  intro enqueue _
  apply Follows.send (by decide)
  apply Follows.done
  intro call
  simp only [EStateM.run_bind, EStateM.run_modify, EStateM.run_pure,
    FactCall.assign, Option.some_or, Bool.or_false]

/-- A body that assigns nothing. -/
theorem follows_pure (attempt : FactAttempt) (writes : List OrdersWrite) :
    Follows attempt (pure writes) (.ok ⟨writes, false, none⟩) := by
  apply Follows.done
  intro call
  simp only [EStateM.run_pure, FactCall.assign, Option.none_or, Bool.or_false]

theorem follows_stepWork (attempt : FactAttempt) (step : SagaStep) (order : Order)
    (envelope : Envelope) (sourceTopic : Topic) :
    Follows attempt (stepWork attempt step order envelope sourceTopic)
      (runStep step order envelope sourceTopic) := by
  cases step with
  | skip => exact follows_pure attempt []
  | advance precondition apply commandAfter =>
      apply Follows.check
      intro advanced _
      apply Follows.send (by decide)
      cases commandAfter with
      | none => exact follows_pure attempt [.save advanced]
      | some kind =>
          exact follows_enqueueCommand attempt [.save advanced] kind advanced.props
            envelope sourceTopic
  | cancel precondition reason compensationSteps =>
      apply Follows.check
      intro mapped _
      apply Follows.check
      intro cancelled _
      apply Follows.send (by decide)
      exact follows_pure attempt [.save cancelled]

/-- The closure decides what the handler's body decides on the attempt's
database. -/
theorem follows_factWork (attempt : FactAttempt) (envelope : Envelope)
    (sourceTopic : Topic) :
    Follows attempt (factWork attempt envelope sourceTopic)
      (handleFact attempt.db envelope sourceTopic) := by
  unfold factWork handleFact
  apply Follows.send (by decide)
  apply Follows.check
  intro found _
  cases found with
  | none => exact follows_recordIgnored attempt envelope none none .unknownOrder
  | some order =>
      have decided : Follows attempt
          (if LateForAcceptedOperatorCancel attempt.db order.props envelope then
            enqueueCommand attempt [] .creditRelease order.props envelope sourceTopic
          else
            match stepForStatus envelope.eventType order.props.status with
            | none =>
                recordIgnored attempt
                  (FactWork.ignore envelope (some order.props.orderReference)
                    (some order.props.status) .preconditionUnmet)
            | some step => stepWork attempt step order envelope sourceTopic)
          (if LateForAcceptedOperatorCancel attempt.db order.props envelope then do
            let enqueue ←
              enqueueForFact .creditRelease order.props envelope sourceTopic
            .ok ⟨[enqueue], false, some .creditRelease⟩
          else
            match stepForStatus envelope.eventType order.props.status with
            | none =>
                .ok (FactWork.ignore envelope (some order.props.orderReference)
                  (some order.props.status) .preconditionUnmet)
            | some step => runStep step order envelope sourceTopic) := by
        by_cases late : LateForAcceptedOperatorCancel attempt.db order.props envelope
        · rw [if_pos late, if_pos late]
          exact follows_enqueueCommand attempt [] .creditRelease order.props envelope
            sourceTopic
        · rw [if_neg late, if_neg late]
          cases stepForStatus envelope.eventType order.props.status with
          | none => exact follows_recordIgnored attempt envelope _ _ _
          | some step => exact follows_stepWork attempt step order envelope sourceTopic
      unfold readLateApproval
      by_cases asked : envelope.eventType = .creditApproved ∧
          order.props.status = .stockReserved
      · simp only [if_pos asked]
        exact Follows.send (by decide) decided
      · simp only [if_neg asked, pure_bind]
        exact decided

/-! ## What the work of an attempt tells -/

/-- A work tells what its fact asks of the database, and enqueues what it owes. -/
structure Reflects (db : OrdersDb) (envelope : Envelope) (work : FactWork) : Prop where
  ignored : work.ignored = ignoresFact db envelope
  enqueued : work.enqueued = owedAfter db envelope
  writes : work.writes.filterMap OrdersWrite.enqueuedKind? = work.enqueued.toList

/-- The row of a command is written under its kind. -/
theorem enqueuedKind?_of_enqueueForFact {kind : SagaCommandKind} {order : OrderProps}
    {envelope : Envelope} {sourceTopic : Topic} {enqueue : OrdersWrite}
    (enqueued : enqueueForFact kind order envelope sourceTopic = .ok enqueue) :
    enqueue.enqueuedKind? = some kind := by
  simp only [enqueueForFact, bind_eq_ok_iff, Except.ok.injEq] at enqueued
  obtain ⟨payload, _, rfl⟩ := enqueued
  rfl

theorem reflects_of_handleFact {db : OrdersDb} {envelope : Envelope}
    {sourceTopic : Topic} {work : FactWork}
    (handled : handleFact db envelope sourceTopic = .ok work) :
    Reflects db envelope work := by
  simp only [handleFact, bind_eq_ok_iff, mapError_eq_ok_iff] at handled
  obtain ⟨found, read, handled⟩ := handled
  cases found with
  | none =>
      cases handled
      constructor
      · simp only [ignoresFact, read, FactWork.ignore]
      · simp only [owedAfter, read, FactWork.ignore]
      · rfl
  | some order =>
      by_cases late : LateForAcceptedOperatorCancel db order.props envelope
      · simp only [if_pos late, bind_eq_ok_iff, Except.ok.injEq] at handled
        obtain ⟨enqueue, enqueued, rfl⟩ := handled
        constructor
        · simp only [ignoresFact, read, late, decide_true, Bool.not_true,
            Bool.false_and]
        · simp only [owedAfter, read, if_pos late]
        · rw [List.filterMap_cons_some (enqueuedKind?_of_enqueueForFact enqueued)]
          rfl
      · simp only [if_neg late] at handled
        cases selected : stepForStatus envelope.eventType order.props.status with
        | none =>
            simp only [selected, Except.ok.injEq] at handled
            subst handled
            constructor
            · simp only [ignoresFact, read, late, selected, FactWork.ignore,
                decide_false, Bool.not_false, Option.isNone_none, Bool.and_self]
            · simp only [owedAfter, read, if_neg late, selected, FactWork.ignore]
            · rfl
        | some step =>
            simp only [selected] at handled
            have notIgnored : ignoresFact db envelope = false := by
              simp only [ignoresFact, read, selected, Option.isNone_some,
                Bool.and_false]
            cases step with
            | skip =>
                have owed : owedAfter db envelope = none := by
                  simp only [owedAfter, read, if_neg late, selected]
                cases handled
                exact ⟨notIgnored.symm, owed.symm, rfl⟩
            | advance precondition apply commandAfter =>
                have owed : owedAfter db envelope = commandAfter := by
                  simp only [owedAfter, read, if_neg late, selected]
                simp only [runStep, bind_eq_ok_iff] at handled
                obtain ⟨advanced, _, handled⟩ := handled
                cases commandAfter with
                | none =>
                    cases handled
                    exact ⟨notIgnored.symm, owed.symm, rfl⟩
                | some kind =>
                    simp only [bind_eq_ok_iff, Except.ok.injEq] at handled
                    obtain ⟨enqueue, enqueued, rfl⟩ := handled
                    refine ⟨notIgnored.symm, owed.symm, ?_⟩
                    rw [List.filterMap_cons_none rfl,
                      List.filterMap_cons_some
                        (enqueuedKind?_of_enqueueForFact enqueued)]
                    rfl
            | cancel precondition reason compensationSteps =>
                have owed : owedAfter db envelope = none := by
                  simp only [owedAfter, read, if_neg late, selected]
                simp only [runStep, bind_eq_ok_iff, Except.ok.injEq] at handled
                obtain ⟨mapped, _, cancelled, _, rfl⟩ := handled
                exact ⟨notIgnored.symm, owed.symm, rfl⟩

/-- What is ignored owes nothing. -/
theorem owedAfter_of_ignoresFact {db : OrdersDb} {envelope : Envelope}
    (ignored : ignoresFact db envelope = true) : owedAfter db envelope = none := by
  unfold ignoresFact at ignored
  unfold owedAfter
  cases read : db.findById envelope.correlationId with
  | error error => rfl
  | ok found =>
      rw [read] at ignored
      cases found with
      | none => rfl
      | some order =>
          simp only [Bool.and_eq_true, Bool.not_eq_true', decide_eq_false_iff_not,
            Option.isNone_iff_eq_none] at ignored
          simp only [if_neg ignored.1, ignored.2]

/-- The steps that owe a command own the event that leads to it. -/
theorem published_of_step {eventType : EventType} {status : OrderStatus}
    {precondition : OrderStatus} {apply : Order → Except OrderError Order}
    {kind : SagaCommandKind}
    (selected : stepForStatus eventType status =
      some (.advance precondition apply (some kind))) :
    (publishedEvent kind eventType).map dispatchOwedCommand = some kind := by
  have member := (mem_of_stepForStatus selected).1
  cases eventType <;>
    simp only [sagaSteps, List.mem_cons, List.not_mem_nil, or_false, reduceCtorEq,
      SagaStep.advance.injEq, false_or, or_self, and_false, Option.some.injEq]
      at member
  case orderPlaced =>
    obtain ⟨_, _, rfl⟩ := member
    rfl
  case stockReserved =>
    obtain ⟨_, _, rfl⟩ := member
    rfl
  case creditApproved =>
    obtain ⟨_, _, rfl⟩ := member
    rfl
  case creditRejected =>
    obtain ⟨_, _, rfl⟩ := member
    rfl
  case stockReleased =>
    obtain ⟨_, _, rfl⟩ | ⟨_, _, rfl⟩ := member
    · rfl
    · rfl
  case orderDespatched =>
    obtain ⟨_, _, rfl⟩ := member
    rfl

/-- A processed fact leads to the command it owes. -/
theorem fastPath_of_owedAfter (db : OrdersDb) (envelope : Envelope) :
    fastPath envelope.eventType ⟨.processed, owedAfter db envelope⟩ =
      owedAfter db envelope := by
  unfold owedAfter
  cases read : db.findById envelope.correlationId with
  | error error => rfl
  | ok found =>
      cases found with
      | none => rfl
      | some order =>
          by_cases late : LateForAcceptedOperatorCancel db order.props envelope
          · simp only [if_pos late, fastPath, late.1]
            rfl
          · simp only [if_neg late]
            cases selected : stepForStatus envelope.eventType order.props.status with
            | none => rfl
            | some step =>
                cases step with
                | skip => rfl
                | cancel precondition reason compensationSteps => rfl
                | advance precondition apply commandAfter =>
                    cases commandAfter with
                    | none => rfl
                    | some kind => exact published_of_step selected

/-! ## What an attempt comes to -/

/-- What a transaction comes to, whatever the variables are when it begins. -/
inductive Transacted (attempt : FactAttempt) (envelope : Envelope)
    (sourceTopic : Topic) : Prop
  /-- It stopped before its commit and leaves the variables. -/
  | stopped (error : AttemptError)
      (runs : ∀ call, (transaction attempt envelope sourceTopic).run call =
        .error error call)
      (before : isRetryable error = true → ¬ attempt.AtCommit)
      (duplicate : error = .duplicateEvent →
        envelope.eventId ∈ attempt.db.processedEvents)
  /-- Its commit was refused: the variables are assigned all the same. -/
  | undone (work : FactWork) (code : String)
      (refusal : attempt.refusal = some (.commit, code))
      (reflects : Reflects attempt.db envelope work)
      (runs : ∀ call, (transaction attempt envelope sourceTopic).run call =
        .error (.driver code) (call.assign work))
  | committed (work : FactWork)
      (fresh : envelope.eventId ∉ attempt.db.processedEvents)
      (reflects : Reflects attempt.db envelope work)
      (runs : ∀ call, (transaction attempt envelope sourceTopic).run call =
        .ok () { call.assign work with committed := some work.writes })

/-- A statement of the body that is refused stops the transaction. -/
theorem Transacted.refused {attempt : FactAttempt} {envelope : Envelope}
    {sourceTopic : Topic} {statement : FactStatement} {code : String}
    (refusal : attempt.refusal = some (statement, code))
    (inBody : statement ≠ .commit)
    (runs : ∀ call, (transaction attempt envelope sourceTopic).run call =
      .error (.driver code) call) : Transacted attempt envelope sourceTopic := by
  apply Transacted.stopped (.driver code) runs
  · intro _ atCommit
    rw [FactAttempt.AtCommit, refusal] at atCommit
    exact inBody (Option.some.inj atCommit)
  · intro absurdity
    cases absurdity

theorem transacted (attempt : FactAttempt) (envelope : Envelope)
    (sourceTopic : Topic) : Transacted attempt envelope sourceTopic := by
  rcases answer_eq attempt .begin with begun | ⟨code, refusal, refused⟩
  case inr =>
    apply Transacted.refused refusal (by decide)
    intro call
    simp only [transaction, FactAttempt.send, EStateM.run_bind, run_ofExcept, refused]
  rcases answer_eq attempt .insertProcessed with inserted | ⟨code, refusal, refused⟩
  case inr =>
    apply Transacted.refused refusal (by decide)
    intro call
    simp only [transaction, FactAttempt.send, EStateM.run_bind, run_ofExcept, begun,
      refused]
  by_cases processed : envelope.eventId ∈ attempt.db.processedEvents
  case pos =>
    apply Transacted.stopped .duplicateEvent _ (fun worth => by cases worth)
      (fun _ => processed)
    intro call
    simp only [transaction, FactAttempt.send, EStateM.run_bind, run_ofExcept, begun,
      inserted, recordProcessedEvent, if_pos processed]
  obtain ⟨outcome, body, isWork⟩ := follows_factWork attempt envelope sourceTopic
  have upToCommit : ∀ call, (transaction attempt envelope sourceTopic).run call =
      match outcome with
      | .error error => .error error call
      | .ok work =>
          (attempt.send .commit >>= fun _ =>
            modify fun call =>
              { call with committed := some work.writes }).run (call.assign work) := by
    intro call
    simp only [transaction, FactAttempt.send, EStateM.run_bind, run_ofExcept, begun,
      inserted, recordProcessedEvent, if_neg processed, body]
    cases outcome <;> rfl
  rcases isWork with isWork | ⟨statement, code, refusal, inBody, rfl⟩
  case inr => exact Transacted.refused refusal inBody upToCommit
  cases handled : handleFact attempt.db envelope sourceTopic with
  | error error =>
      rw [handled] at isWork
      subst isWork
      exact .stopped (.handler error) upToCommit (fun worth => by cases worth)
        (fun absurdity => by cases absurdity)
  | ok work =>
      rw [handled] at isWork
      subst isWork
      have reflects := reflects_of_handleFact handled
      rcases answer_eq attempt .commit with granted | ⟨code, refusal, refused⟩
      · apply Transacted.committed work processed reflects
        intro call
        rw [upToCommit]
        simp only [Except.mapError, FactAttempt.send, EStateM.run_bind, run_ofExcept,
          granted, EStateM.run_modify]
      · apply Transacted.undone work code refusal reflects
        intro call
        rw [upToCommit]
        simp only [Except.mapError, FactAttempt.send, EStateM.run_bind, run_ofExcept,
          refused]

/-! ## What aborted attempts leave -/

namespace FactAttempt

/-- The transaction throws an error the unit of work retries. -/
def Aborted (attempt : FactAttempt) (envelope : Envelope) (sourceTopic : Topic) :
    Prop :=
  ∃ error left,
    (transaction attempt envelope sourceTopic).run FactCall.initial =
      .error error left ∧
    isRetryable error = true

/-- What an aborted attempt leaves of the variables: an attempt that reached its
commit has assigned them. -/
def leave (attempt : FactAttempt) (envelope : Envelope) (call : FactCall) :
    FactCall :=
  if attempt.AtCommit then
    { call with
      enqueued := (owedAfter attempt.db envelope).or call.enqueued
      ignored := call.ignored || ignoresFact attempt.db envelope }
  else
    call

theorem Aborted.aborts {attempt : FactAttempt} {envelope : Envelope}
    {sourceTopic : Topic} (aborted : attempt.Aborted envelope sourceTopic) :
    Aborts isRetryable (transaction attempt envelope sourceTopic)
      (attempt.leave envelope) := by
  obtain ⟨error, left, threw, worth⟩ := aborted
  cases transacted attempt envelope sourceTopic with
  | stopped error' runs before duplicate =>
      rw [runs] at threw
      cases threw
      intro call
      rw [leave, if_neg (before worth)]
      exact ⟨error, runs call, worth⟩
  | undone work code refusal reflects runs =>
      rw [runs] at threw
      cases threw
      intro call
      have atCommit : attempt.AtCommit := by
        rw [AtCommit, refusal]
        rfl
      rw [leave, if_pos atCommit, ← reflects.enqueued, ← reflects.ignored]
      exact ⟨.driver code, runs call, worth⟩
  | committed work fresh reflects runs =>
      rw [runs] at threw
      cases threw

end FactAttempt

/-- The variables a number of aborted attempts leave to the next. -/
def leftToAttempt (attempts : Nat → FactAttempt) (envelope : Envelope)
    (attempt : Nat) : FactCall :=
  leftBehind (fun earlier => (attempts earlier).leave envelope) attempt
    FactCall.initial

theorem leftToAttempt_succ (attempts : Nat → FactAttempt) (envelope : Envelope)
    (attempt : Nat) :
    leftToAttempt attempts envelope (attempt + 1) =
      (attempts attempt).leave envelope (leftToAttempt attempts envelope attempt) :=
  rfl

theorem ignored_leftToAttempt (attempts : Nat → FactAttempt) (envelope : Envelope)
    (attempt : Nat) :
    (leftToAttempt attempts envelope attempt).ignored = false ↔
      ∀ earlier < attempt, (attempts earlier).AtCommit →
        ignoresFact (attempts earlier).db envelope = false := by
  induction attempt with
  | zero =>
      constructor
      · intro _ earlier before
        exact absurd before (Nat.not_lt_zero earlier)
      · intro _
        rfl
  | succ attempt inductionHypothesis =>
      rw [Nat.forall_lt_succ_right, ← inductionHypothesis, leftToAttempt_succ,
        FactAttempt.leave]
      by_cases atCommit : (attempts attempt).AtCommit
      · rw [if_pos atCommit]
        simp only [Bool.or_eq_false_iff, atCommit, forall_const]
      · rw [if_neg atCommit]
        simp only [atCommit, false_implies, and_true]

theorem enqueued_leftToAttempt (attempts : Nat → FactAttempt) (envelope : Envelope)
    (attempt : Nat) :
    (leftToAttempt attempts envelope attempt).enqueued = none ↔
      ∀ earlier < attempt, (attempts earlier).AtCommit →
        owedAfter (attempts earlier).db envelope = none := by
  induction attempt with
  | zero =>
      constructor
      · intro _ earlier before
        exact absurd before (Nat.not_lt_zero earlier)
      · intro _
        rfl
  | succ attempt inductionHypothesis =>
      rw [Nat.forall_lt_succ_right, ← inductionHypothesis, leftToAttempt_succ,
        FactAttempt.leave]
      by_cases atCommit : (attempts attempt).AtCommit
      · rw [if_pos atCommit]
        simp only [Option.or_eq_none_iff, atCommit, forall_const, and_comm]
      · rw [if_neg atCommit]
        simp only [atCommit, false_implies, and_true]

/-- Nothing is committed before the last attempt. -/
theorem committed_leftToAttempt (attempts : Nat → FactAttempt) (envelope : Envelope)
    (attempt : Nat) : (leftToAttempt attempts envelope attempt).committed = none := by
  induction attempt with
  | zero => rfl
  | succ attempt inductionHypothesis =>
      rw [leftToAttempt_succ, FactAttempt.leave]
      by_cases atCommit : (attempts attempt).AtCommit
      · rw [if_pos atCommit]
        exact inductionHypothesis
      · rw [if_neg atCommit]
        exact inductionHypothesis

/-! ## The result of a call -/

/-- A call whose fact is not skipped runs its attempts and reads the variables. -/
theorem run_handle {envelope : Envelope} (notSkipped : ¬ IsSkipped envelope.eventType)
    (attemptsAllowed : Nat) (attempts : Nat → FactAttempt) (sourceTopic : Topic)
    (call : FactCall) :
    (handle attemptsAllowed attempts envelope sourceTopic).run call =
      match (executeAttempts attemptsAllowed attempts envelope sourceTopic).run call with
      | .ok _ left => .ok (resultOf .processed left) left
      | .error .duplicateEvent left => .ok (resultOf .duplicate left) left
      | .error other left => .error other left := by
  rw [handle, if_neg notSkipped, EStateM.run_bind]
  have consumed : (runOnce attemptsAllowed attempts envelope sourceTopic).run call =
      match (executeAttempts attemptsAllowed attempts envelope sourceTopic).run call with
      | .ok _ left => .ok .processed left
      | .error .duplicateEvent left => .ok .duplicate left
      | .error other left => .error other left := by
    rw [runOnce, run_tryCatch, EStateM.run_bind]
    cases (executeAttempts attemptsAllowed attempts envelope sourceTopic).run call with
    | ok value left => rfl
    | error error left => cases error <;> rfl
  rw [consumed]
  cases (executeAttempts attemptsAllowed attempts envelope sourceTopic).run call with
  | ok value left => rfl
  | error error left => cases error <;> rfl

/-- The call a single attempt makes of itself. -/
def runAlone (attempt : FactAttempt) (envelope : Envelope) (sourceTopic : Topic) :
    EStateM.Result AttemptError FactCall SagaFactResult :=
  (handle 1 (fun _ => attempt) envelope sourceTopic).run FactCall.initial

/-- The retries of a call do not show: it returns what its last attempt would
return alone, that attempt's transaction is the one committed, and the command
it committed, if any, is the one announced. -/
def RetriesInvisible (attemptsAllowed : Nat) (attempts : Nat → FactAttempt)
    (last : Nat) (envelope : Envelope) (sourceTopic : Topic) : Prop :=
  ∃ result call alone,
    (handle attemptsAllowed attempts envelope sourceTopic).run FactCall.initial =
      .ok result call ∧
    runAlone (attempts last) envelope sourceTopic = .ok result alone ∧
    call.committed = alone.committed ∧
    (fastPath envelope.eventType result).toList =
      (call.committed.getD []).filterMap OrdersWrite.enqueuedKind?

/-- The last attempt sets whatever an earlier one, undone at its commit, has
left set. -/
structure NothingStale (attempts : Nat → FactAttempt) (last : Nat)
    (envelope : Envelope) : Prop where
  ignored : ∀ earlier < last, (attempts earlier).AtCommit →
    ignoresFact (attempts earlier).db envelope = false
  enqueued : owedAfter (attempts last).db envelope ≠ none ∨
    ∀ earlier < last, (attempts earlier).AtCommit →
      owedAfter (attempts earlier).db envelope = none

/-- Aborted attempts hand the call over to the last one. -/
theorem run_executeAttempts {attemptsAllowed last : Nat}
    {attempts : Nat → FactAttempt} {envelope : Envelope} {sourceTopic : Topic}
    (aborted : ∀ attempt < last, (attempts attempt).Aborted envelope sourceTopic)
    (allowed : last < attemptsAllowed)
    (ends : ∀ call, EndsAt isRetryable
      (transaction (attempts last) envelope sourceTopic) call) :
    (executeAttempts attemptsAllowed attempts envelope sourceTopic).run
        FactCall.initial =
      (transaction (attempts last) envelope sourceTopic).run
        (leftToAttempt attempts envelope last) := by
  have split : attemptsAllowed - 1 = last + (attemptsAllowed - 1 - last) := by omega
  rw [executeAttempts, split, run_retry_of_aborted
    (fun attempt before => (aborted attempt before).aborts)]
  exact run_retry_of_endsAt (ends _) _

theorem run_executeAttempts_one (attempt : FactAttempt) (envelope : Envelope)
    (sourceTopic : Topic) (call : FactCall) :
    (executeAttempts 1 (fun _ => attempt) envelope sourceTopic).run call =
      (transaction attempt envelope sourceTopic).run call :=
  rfl

/-- The variables an undone attempt left show exactly where the last one does not
set them itself. -/
theorem resultOf_assign_eq_iff (call : FactCall) (work : FactWork)
    (committed : Option (List OrdersWrite)) :
    resultOf .processed { call.assign work with committed := committed } =
        resultOf .processed
          { FactCall.initial.assign work with committed := committed } ↔
      work.ignored = true ∨
        call.ignored = false ∧ (work.enqueued ≠ none ∨ call.enqueued = none) := by
  obtain ⟨writes, workIgnored, workEnqueued⟩ := work
  simp only [resultOf, FactCall.assign, FactCall.initial, Bool.false_or, Option.or_none]
  cases workIgnored with
  | true => simp only [Bool.or_true, if_true, true_or]
  | false =>
      obtain ⟨enqueued, ignored, earlier⟩ := call
      cases ignored with
      | true => simp
      | false => cases workEnqueued <;> simp

/-- The command a committed attempt enqueued is announced, and no other. -/
theorem fastPath_of_reflects {db : OrdersDb} {envelope : Envelope} {work : FactWork}
    (reflects : Reflects db envelope work) (committed : Option (List OrdersWrite)) :
    (fastPath envelope.eventType (resultOf .processed
        { FactCall.initial.assign work with committed := committed })).toList =
      work.writes.filterMap OrdersWrite.enqueuedKind? := by
  rw [reflects.writes]
  simp only [resultOf, FactCall.assign, FactCall.initial, Bool.false_or, Option.or_none,
    reflects.enqueued, reflects.ignored]
  cases ignored : ignoresFact db envelope with
  | true =>
      rw [owedAfter_of_ignoresFact ignored]
      rfl
  | false =>
      simp only [Bool.false_eq_true, if_false]
      rw [fastPath_of_owedAfter]

/-- The retries of a call do not show exactly when the handler skips the fact, the
last attempt finds it processed or ignores it, or the last attempt sets whatever
an attempt undone at its commit left set. -/
theorem retriesInvisible_iff {attemptsAllowed last : Nat}
    {attempts : Nat → FactAttempt} {envelope : Envelope} {sourceTopic : Topic}
    (aborted : ∀ attempt < last, (attempts attempt).Aborted envelope sourceTopic)
    (allowed : last < attemptsAllowed)
    (returned : ∃ result call,
      runAlone (attempts last) envelope sourceTopic = .ok result call) :
    RetriesInvisible attemptsAllowed attempts last envelope sourceTopic ↔
      IsSkipped envelope.eventType ∨
        envelope.eventId ∈ (attempts last).db.processedEvents ∨
        ignoresFact (attempts last).db envelope = true ∨
        NothingStale attempts last envelope := by
  by_cases skipped : IsSkipped envelope.eventType
  · simp only [skipped, true_or, iff_true]
    refine ⟨⟨.processed, none⟩, .initial, .initial, ?_, ?_, rfl, rfl⟩
    · rw [handle, if_pos skipped]
      rfl
    · rw [runAlone, handle, if_pos skipped]
      rfl
  · simp only [skipped, false_or]
    rw [runAlone] at returned
    simp only [RetriesInvisible, runAlone, run_handle skipped,
      run_executeAttempts_one] at returned ⊢
    cases transacted (attempts last) envelope sourceTopic with
    | stopped error runs before duplicate =>
        have isDuplicate : error = .duplicateEvent := by
          obtain ⟨result, call, returned⟩ := returned
          rw [runs] at returned
          cases error with
          | duplicateEvent => rfl
          | driver code => cases returned
          | handler error => cases returned
        subst isDuplicate
        rw [run_executeAttempts aborted allowed, runs, runs]
        · simp only [duplicate rfl, true_or, iff_true]
          exact ⟨_, _, _, rfl, rfl, committed_leftToAttempt attempts envelope last,
            by rw [committed_leftToAttempt]; rfl⟩
        · intro call error left threw
          rw [runs] at threw
          cases threw
          rfl
    | undone work code refusal reflects runs =>
        obtain ⟨result, call, returned⟩ := returned
        rw [runs] at returned
        cases returned
    | committed work fresh reflects runs =>
        rw [run_executeAttempts aborted allowed, runs, runs]
        · have shows := resultOf_assign_eq_iff (leftToAttempt attempts envelope last)
            work (some work.writes)
          rw [reflects.ignored, reflects.enqueued, ignored_leftToAttempt,
            enqueued_leftToAttempt] at shows
          simp only [fresh, false_or]
          constructor
          · rintro ⟨result, call, alone, isResult, isAlone, _, _⟩
            cases isResult
            injection isAlone with same _
            exact (shows.mp same.symm).imp id fun stale => ⟨stale.1, stale.2⟩
          · intro nothingStale
            have same := shows.mpr
              (nothingStale.imp id fun stale => ⟨stale.ignored, stale.enqueued⟩)
            refine ⟨_, _, { FactCall.initial.assign work with
              committed := some work.writes }, rfl, ?_, rfl, ?_⟩
            · exact congrArg (EStateM.Result.ok · _) same.symm
            · rw [same]
              exact fastPath_of_reflects reflects _
        · intro call error left threw
          rw [runs] at threw
          cases threw

/-! ## An approval whose first attempt is undone at its commit -/

def orderAt (status : OrderStatus) : OrderProps where
  orderReference := ⟨1⟩
  retailerCode := "RET-01"
  companyCode := "COM-01"
  currency := "EUR"
  lines :=
    [{ id := ⟨0⟩
       productCode := "SKU-1"
       description := "one"
       quantity := 2
       unitPrice := ⟨500, .eur⟩
       lineDiscount := ⟨0, .eur⟩ }]
  initialAmount := ⟨1000, .eur⟩
  initialDiscount := ⟨0, .eur⟩
  totalAmount := ⟨1000, .eur⟩
  status := status
  cancellationReason := none
  notes := none

def databaseAt (status : OrderStatus) : OrdersDb :=
  { OrdersDb.empty with
    orders := fun order => if order = ⟨1⟩ then some (orderAt status) else none }

def approval : Envelope where
  eventId := ⟨.billing, 0⟩
  fact := .creditApproved
    { orderReference := ⟨1⟩
      retailerCode := "RET-01"
      companyCode := "COM-01"
      creditCode := "CR-01"
      currency := .eur
      heldAmount := 1000
      availableCreditAfter := 0 }

/-- The first attempt reads the order before it is `stock_reserved`, the second
after. -/
def overtaken : Nat → FactAttempt
  | 0 => ⟨databaseAt .placed, some (.commit, "ER_LOCK_DEADLOCK")⟩
  | _ => ⟨databaseAt .stockReserved, none⟩

theorem overtaken_aborted :
    ∀ attempt < 1, (overtaken attempt).Aborted approval .billing := by
  intro attempt before
  obtain rfl : attempt = 0 := by omega
  exact ⟨_, _, rfl, rfl⟩

theorem overtaken_returned :
    ∃ result call, runAlone (overtaken 1) approval .billing = .ok result call :=
  ⟨_, _, rfl⟩

/-- The order is confirmed and its despatch is owed, and the call answers that the
fact was ignored: nothing is announced. -/
theorem overtaken_shows :
    (∀ attempt < 1, (overtaken attempt).Aborted approval .billing) ∧
      (∃ result call, runAlone (overtaken 1) approval .billing = .ok result call) ∧
      ¬ RetriesInvisible maxAttempts overtaken 1 approval .billing := by
  refine ⟨overtaken_aborted, overtaken_returned, ?_⟩
  have answer : ∃ call,
      (handle maxAttempts overtaken approval .billing).run FactCall.initial =
        .ok ⟨.ignored, none⟩ call ∧
      (call.committed.getD []).filterMap OrdersWrite.enqueuedKind? =
        [.despatchCreate] := ⟨_, rfl, rfl⟩
  obtain ⟨committed, ran, owed⟩ := answer
  rintro ⟨result, call, alone, isResult, _, _, announced⟩
  rw [ran] at isResult
  cases isResult
  rw [owed] at announced
  cases announced

/-- The condition, at the attempts above. -/
theorem overtaken_iff :
    RetriesInvisible maxAttempts overtaken 1 approval .billing ↔
      IsSkipped approval.eventType ∨
        approval.eventId ∈ (overtaken 1).db.processedEvents ∨
        ignoresFact (overtaken 1).db approval = true ∨
        NothingStale overtaken 1 approval :=
  retriesInvisible_iff overtaken_aborted (by decide) overtaken_returned

end OrderToCash.Orders
