import OrderToCash.Orders.CommandRows
import OrderToCash.Orders.CommittedStatus

/-!
# When a fact is recorded as ignored

A row of `saga_ignored_facts` is written by a fact's transaction, under the order
of its fact, and only where the status that was read has no step for the fact.
-/

namespace OrderToCash.Orders

open OrderToCash.Checked
open OrderToCash.Contracts
open OrderToCash.Kernel
open OrderToCash.Transition

/-- A step that was selected records nothing as ignored. -/
theorem not_recordIgnored_of_runStep {step : SagaStep} {loaded : Order}
    {envelope : Envelope} {sourceTopic : Topic} {work : FactWork}
    (ran : runStep step loaded envelope sourceTopic = .ok work) (ignored : IgnoredFact) :
    .recordIgnored ignored ∉ work.writes := by
  cases step with
  | skip =>
      cases ran
      simp
  | advance precondition apply commandAfter =>
      simp only [runStep, bind_eq_ok_iff, mapError_eq_ok_iff] at ran
      rcases ran with ⟨saved, _, ran⟩
      cases commandAfter with
      | none =>
          cases ran
          simp
      | some kind =>
          simp only [enqueueForFact, bind_eq_ok_iff, Except.ok.injEq] at ran
          rcases ran with ⟨_, ⟨payload, _, rfl⟩, rfl⟩
          simp
  | cancel precondition reason compensationSteps =>
      simp only [runStep, bind_eq_ok_iff, mapError_eq_ok_iff, Except.ok.injEq] at ran
      rcases ran with ⟨_, _, saved, _, rfl⟩
      simp

/-- A fact is recorded as ignored under its own order, where the status that was read
has no step for it. -/
theorem ignored_of_handleFact {db : OrdersDb} {envelope : Envelope} {sourceTopic : Topic}
    {work : FactWork} (handled : handleFact db envelope sourceTopic = .ok work)
    {ignored : IgnoredFact} (written : .recordIgnored ignored ∈ work.writes) :
    ignored.correlationId = envelope.correlationId ∧
      ∀ status, db.statusOf envelope.correlationId = some status →
        stepForStatus envelope.eventType status = none := by
  simp only [handleFact, bind_eq_ok_iff, mapError_eq_ok_iff] at handled
  rcases handled with ⟨found, read, handled⟩
  cases found with
  | none =>
      cases handled
      rw [FactWork.ignore, List.mem_singleton, OrdersWrite.recordIgnored.injEq] at written
      subst written
      refine ⟨rfl, fun status isStatus => ?_⟩
      simp [OrdersDb.statusOf, findById_eq_ok_none read] at isStatus
  | some loaded =>
      rcases findById_eq_ok_some read with ⟨row, stored, rebuilt⟩
      have sameStatus := (reconstitute_status rebuilt).2.1
      by_cases isLate : LateForAcceptedOperatorCancel db loaded.props envelope
      · simp only [if_pos isLate, enqueueForFact, bind_eq_ok_iff, Except.ok.injEq] at handled
        rcases handled with ⟨_, ⟨payload, _, rfl⟩, rfl⟩
        simp at written
      · simp only [if_neg isLate] at handled
        cases selected : stepForStatus envelope.eventType loaded.props.status with
        | none =>
            simp only [selected, Except.ok.injEq] at handled
            subst handled
            rw [FactWork.ignore, List.mem_singleton, OrdersWrite.recordIgnored.injEq] at written
            subst written
            refine ⟨rfl, fun status isStatus => ?_⟩
            simp only [OrdersDb.statusOf, stored, Option.map_some, Option.some.injEq] at isStatus
            rw [← isStatus, ← sameStatus]
            exact selected
        | some step =>
            simp only [selected] at handled
            exact absurd written (not_recordIgnored_of_runStep handled ignored)

namespace OrdersDb

variable {db db' : OrdersDb} {ignored : IgnoredFact}

theorem enqueue_ignoredFacts (order : OrderNumber) (kind : SagaCommandKind)
    (row : SagaCommandRow) : (db.enqueue order kind row).ignoredFacts = db.ignoredFacts := by
  unfold enqueue
  split <;> rfl

theorem updateUnlessSent_ignoredFacts {order : OrderNumber} {kind : SagaCommandKind}
    {update : SagaCommandRow → SagaCommandRow}
    (result : db.updateUnlessSent order kind update = some db') :
    db'.ignoredFacts = db.ignoredFacts := by
  unfold updateUnlessSent at result
  split at result
  · cases result
  · split at result
    · cases result
    · cases result
      rfl

/-- A row is recorded once it was, or a write records it. -/
theorem ignoredFacts_of_writes {writes : List OrdersWrite}
    (recorded : ignored ∈ (applyWrites db writes).ignoredFacts) :
    ignored ∈ db.ignoredFacts ∨ .recordIgnored ignored ∈ writes := by
  induction writes generalizing db with
  | nil => exact Or.inl recorded
  | cons write rest inductionHypothesis =>
      rcases inductionHypothesis recorded with before | written
      · cases write with
        | save saved => exact Or.inl before
        | enqueue order kind row =>
            rw [OrdersWrite.apply, enqueue_ignoredFacts] at before
            exact Or.inl before
        | recordIgnored other =>
            rcases List.mem_append.mp before with earlier | isThis
            · exact Or.inl earlier
            · rw [List.mem_singleton.mp isThis]
              exact Or.inr List.mem_cons_self
      · exact Or.inr (List.mem_cons_of_mem _ written)

end OrdersDb

/-- How a row that is recorded after an action came to be. -/
inductive IgnoredChange (system : OrdersSystem) (ignored : IgnoredFact) :
    OrdersAction → Prop
  | kept {action : OrdersAction} (before : ignored ∈ system.db.ignoredFacts) :
      IgnoredChange system ignored action
  | recorded (index : Nat) (opened : OpenTransaction) (envelope : Envelope)
      (sourceTopic : Topic) (work : FactWork)
      (found : system.openTransactions[index]? = some opened)
      (isWork : opened.work = .handleFact envelope sourceTopic)
      (fresh : envelope.eventId ∉ system.db.processedEvents)
      (handled : handleFact opened.snapshot envelope sourceTopic = .ok work)
      (written : .recordIgnored ignored ∈ work.writes) :
      IgnoredChange system ignored (.commit index)

theorem OrdersSystem.ignored_change {system system' : OrdersSystem} {action : OrdersAction}
    (stepped : step system action = some system') {ignored : IgnoredFact}
    (recorded : ignored ∈ system'.db.ignoredFacts) : IgnoredChange system ignored action := by
  cases moves_of_step stepped with
  | place | beginFact | readForCancel | notFound | cancelInTransaction | rollback
  | alreadyClaimed | beginFirstPark => exact .kept recorded
  | beginStockRelease =>
      simp only [answer, OrdersDb.enqueue_ignoredFacts] at recorded
      exact .kept recorded
  | commit index opened _ found committed =>
      cases committed with
      | handleFact envelope sourceTopic work isWork fresh handled =>
          rcases OrdersDb.ignoredFacts_of_writes recorded with before | written
          · exact .kept before
          · exact .recorded index opened envelope sourceTopic work found isWork fresh
              handled written
      | cancelPlaced order writes outcome isWork decided =>
          rcases OrdersDb.ignoredFacts_of_writes recorded with before | written
          · exact .kept before
          · rcases cancelPlaced_writes decided with ⟨rfl, _⟩ | ⟨_, _, _, _, rfl, _⟩
            · simp at written
            · simp at written
      | onFirstPark order failure writes isWork decided =>
          rcases OrdersDb.ignoredFacts_of_writes recorded with before | written
          · exact .kept before
          · rcases onFirstPark_writes decided with ⟨rfl, _⟩ | ⟨_, _, rfl⟩
            · simp at written
            · simp at written
  | markSent _ _ db updated | markRejected _ _ _ _ db updated | park _ _ _ _ db updated =>
      change ignored ∈ db.ignoredFacts at recorded
      rw [OrdersDb.updateUnlessSent_ignoredFacts updated] at recorded
      exact .kept recorded
  | claimDeadLetter index parked db waiting claimed =>
      rcases OrdersDb.claimDeadLetter_sagaCommands claimed with ⟨_, _, _, rfl⟩
      exact .kept recorded

end OrderToCash.Orders
