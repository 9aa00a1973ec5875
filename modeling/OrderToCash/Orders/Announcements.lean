import OrderToCash.Orders.Reaction

/-!
# The statuses Orders announces

A confirmation, a completion and a cancellation are told of by a fact of Orders
itself.  An order is saved with such a fact exactly when it has just reached the
status, so where no transaction reads an old version the outbox holds what the
current one stands for.
-/

namespace OrderToCash.Orders

open OrderToCash.Checked
open OrderToCash.Contracts
open OrderToCash.Kernel

/-- A status, with the reason of a cancellation. -/
abbrev Announcement := OrderStatus × Option CancellationReason

/-- The status a fact of Orders tells of. -/
def announced? : Fact → Option Announcement
  | .orderConfirmed _ => some (.confirmed, none)
  | .orderCompleted _ => some (.completed, none)
  | .orderCancelled payload => some (.cancelled, some payload.cancellationReason)
  | _ => none

/-- What there is to tell of a status when it is reached. -/
def announcementOf (reason : Option CancellationReason) :
    OrderStatus → List Announcement
  | .confirmed => [(.confirmed, reason)]
  | .completed => [(.completed, reason)]
  | .cancelled => [(.cancelled, reason)]
  | _ => []

theorem mem_announcementOf {reason : Option CancellationReason} {status : OrderStatus}
    {announcement : Announcement}
    (announcementMem : announcement ∈ announcementOf reason status) :
    announcement = (status, reason) := by
  cases status with
  | confirmed | completed | cancelled => exact List.mem_singleton.mp announcementMem
  | _ => cases announcementMem

/-! ## What a saved order tells -/

/-- An order saved from a row tells of the status it has moved to, and of nothing
if it has not moved. -/
structure Order.Announces (saved : Order) (loaded : OrderProps) : Prop where
  ofOrder : ∀ fact ∈ saved.domainEvents,
    fact.orderReference = saved.props.orderReference
  stays : saved.props.status = loaded.status →
    saved.domainEvents.filterMap announced? = [] ∧
      saved.props.cancellationReason = loaded.cancellationReason
  moves : saved.props.status ≠ loaded.status →
    loaded.status.rank < saved.props.status.rank ∧
      saved.domainEvents.filterMap announced? =
        announcementOf saved.props.cancellationReason saved.props.status

/-- A transition that builds no event appends none. -/
theorem domainEvents_of_silent {order order' : Order} {target : OrderStatus}
    {reason : Option CancellationReason}
    (accepted : order.transitionTo target reason none = .ok order') :
    order'.domainEvents = order.domainEvents := by
  unfold Order.transitionTo at accepted
  split at accepted
  · cases accepted
  · split at accepted
    · contradiction
    · cases accepted
      rfl

/-- A transition into a status whose rows all emit appends its event. -/
theorem domainEvents_of_transitionTo {order order' : Order} {target : OrderStatus}
    {reason : Option CancellationReason} {build : OrderProps → Fact}
    (emits : ∀ transition ∈ orderTransitions, transition.target = target →
      transition.emits ≠ none)
    (accepted : order.transitionTo target reason (some build) = .ok order') :
    order'.domainEvents = order.domainEvents ++ [build order'.props] := by
  unfold Order.transitionTo at accepted
  split at accepted
  · cases accepted
  · rename_i transition found
    have member := List.mem_of_find?_eq_some found
    have isTarget := List.find?_some found
    simp only [decide_eq_true_eq] at isTarget
    split at accepted
    · rename_i isBuild
      cases isBuild
      cases accepted
      rfl
    · rename_i noEmission
      cases emission : transition.emits with
      | none => exact absurd emission (emits transition member isTarget.2)
      | some eventType => exact absurd rfl (noEmission eventType build emission)

/-- An advance tells of a confirmation or a completion. -/
theorem Order.Announces.advance {eventType : EventType} {precondition : OrderStatus}
    {apply : Order → Except OrderError Order} {commandAfter : Option SagaCommandKind}
    {loaded saved : Order}
    (found : stepForStatus eventType loaded.props.status =
      some (.advance precondition apply commandAfter))
    (applied : apply loaded = .ok saved) (noEvents : loaded.domainEvents = [])
    (reasonless : loaded.props.cancellationReason = none) :
    saved.Announces loaded.props := by
  have savedProps := advance_props found applied
  have sameReason : saved.props.cancellationReason = none := by
    rw [savedProps]
    exact reasonless
  rcases mem_of_stepForStatus found with ⟨member, isStatus⟩
  simp only [SagaStep.precondition?, Option.some.injEq] at isStatus
  have staying (stays : advancedStatus eventType loaded.props.status =
      loaded.props.status) : saved.Announces loaded.props := by
    have silent := (domainEvents_of_advance found applied stays).trans noEvents
    constructor
    · simp [silent]
    · simp [silent, sameReason, reasonless]
    · intro moved
      rw [savedProps] at moved
      exact absurd stays moved
  have moving {events : List Fact} {target : OrderStatus}
      (appended : saved.domainEvents = events)
      (advanced : advancedStatus eventType loaded.props.status = target)
      (climbs : precondition.rank < target.rank)
      (ofOrder : ∀ fact ∈ events, fact.orderReference = saved.props.orderReference)
      (told : events.filterMap announced? = announcementOf none target) :
      saved.Announces loaded.props := by
    have isTarget : saved.props.status = target := by
      rw [savedProps]
      exact advanced
    subst appended isTarget
    rw [isStatus] at climbs
    constructor
    · exact ofOrder
    · intro stays
      rw [stays] at climbs
      exact absurd climbs (Nat.lt_irrefl _)
    · exact fun _ => ⟨climbs, by rw [sameReason]; exact told⟩
  cases eventType <;>
    simp only [sagaSteps, List.mem_cons, List.not_mem_nil, or_false, reduceCtorEq,
      SagaStep.advance.injEq, false_or, or_self] at member
  case orderPlaced | creditRejected | stockReleased => exact staying rfl
  case stockReserved | orderDespatched | invoiceIssued | paymentReceived =>
    rcases member with ⟨rfl, rfl, _⟩
    apply moving ((domainEvents_of_silent applied).trans noEvents) rfl
    · simp [advancedStatus, OrderStatus.rank]
    · simp
    · rfl
  case creditApproved =>
    rcases member with ⟨rfl, rfl, _⟩
    simp only [bind_eq_ok_iff] at applied
    rcases applied with ⟨approved, first, second⟩
    have appended := domainEvents_of_transitionTo (by decide) second
    rw [domainEvents_of_silent first, noEvents] at appended
    apply moving appended rfl
    · simp [advancedStatus, OrderStatus.rank]
    · simp [orderConfirmedEvent, orderTotalPayload, Fact.orderReference]
    · rfl
  case creditReleased =>
    rcases member with ⟨rfl, rfl, _⟩
    have appended := domainEvents_of_transitionTo (by decide) applied
    rw [noEvents] at appended
    apply moving appended rfl
    · simp [advancedStatus, OrderStatus.rank]
    · simp [orderCompletedEvent, orderTotalPayload, Fact.orderReference]
    · rfl

/-- A cancellation tells of itself and its reason. -/
theorem Order.Announces.cancel {loaded saved : Order} {reason : CancellationReason}
    {compensationSteps : List CompensationStep}
    (cancelled : loaded.cancel reason compensationSteps = .ok saved)
    (noEvents : loaded.domainEvents = []) : saved.Announces loaded.props := by
  rcases Order.cancel_eq_ok cancelled with ⟨cancellable, _, _, savedProps⟩
  simp only [Order.cancel, ite_error_eq_ok_iff] at cancelled
  rcases cancelled with ⟨_, _, _, transitioned⟩
  have appended := domainEvents_of_transitionTo (by decide) transitioned
  rw [noEvents] at appended
  have climbs : loaded.props.status.rank < OrderStatus.cancelled.rank := by
    rcases (OrderStatus.isCancellable_iff _).mp cancellable with
      isStatus | isStatus | isStatus | isStatus <;> rw [isStatus] <;> decide
  constructor
  · simp [appended, orderCancelledEvent, Fact.orderReference]
  · intro stays
    rw [← stays, savedProps] at climbs
    exact absurd climbs (Nat.lt_irrefl _)
  · intro _
    rw [appended, savedProps]
    exact ⟨climbs, rfl⟩

/-- A dead letter tells of no status. -/
theorem Order.Announces.recordSagaFailure (loaded : Order) (failure : SagaFailureInput)
    (noEvents : loaded.domainEvents = []) :
    (loaded.recordSagaFailure failure).Announces loaded.props := by
  constructor
  · simp [Order.recordSagaFailure, noEvents, orderSagaFailedEvent, Fact.orderReference]
  · intro _
    simp [Order.recordSagaFailure, noEvents, orderSagaFailedEvent, announced?]
  · intro moved
    exact absurd rfl moved

/-- Whatever a fact's transaction saves is announced. -/
theorem announces_of_handleFact {db : OrdersDb} {envelope : Envelope}
    {sourceTopic : Topic} {work : FactWork} {saved : Order}
    (handled : handleFact db envelope sourceTopic = .ok work)
    (savedMem : OrdersWrite.save saved ∈ work.writes) :
    ∃ loaded, db.findById envelope.correlationId = .ok (some loaded) ∧
      saved.props.orderReference = loaded.props.orderReference ∧
      saved.Announces loaded.props := by
  simp only [handleFact, bind_eq_ok_iff, mapError_eq_ok_iff] at handled
  rcases handled with ⟨found, read, handled⟩
  cases found with
  | none =>
      cases handled
      simp [FactWork.ignore] at savedMem
  | some loaded =>
      rcases findById_eq_ok_some read with ⟨row, stored, rebuilt⟩
      rcases silent_of_reconstitute rebuilt with ⟨noEvents, reasonless⟩
      rcases reconstitute_status rebuilt with ⟨_, sameStatus, sameReason⟩
      refine ⟨loaded, read, ?_⟩
      by_cases isLate : LateForAcceptedOperatorCancel db loaded.props envelope
      · simp only [if_pos isLate, enqueueForFact, bind_eq_ok_iff,
          Except.ok.injEq] at handled
        rcases handled with ⟨enqueue, ⟨payload, built, rfl⟩, rfl⟩
        simp at savedMem
      · simp only [if_neg isLate] at handled
        cases selected : stepForStatus envelope.eventType loaded.props.status with
        | none =>
            simp only [selected, Except.ok.injEq] at handled
            subst handled
            simp [FactWork.ignore] at savedMem
        | some step =>
            simp only [selected] at handled
            cases step with
            | skip =>
                have precondition := (mem_of_stepForStatus selected).2
                simp [SagaStep.precondition?] at precondition
            | advance precondition apply commandAfter =>
                simp only [runStep, bind_eq_ok_iff, mapError_eq_ok_iff] at handled
                rcases handled with ⟨advanced, applied, handled⟩
                have isSaved : saved = advanced := by
                  cases commandAfter with
                  | none =>
                      cases handled
                      simpa using savedMem
                  | some kind =>
                      simp only [enqueueForFact, bind_eq_ok_iff,
                        Except.ok.injEq] at handled
                      rcases handled with ⟨enqueue, ⟨payload, built, rfl⟩, rfl⟩
                      simpa using savedMem
                subst isSaved
                constructor
                · rw [advance_props selected applied]
                · apply Order.Announces.advance selected applied noEvents
                  rw [sameReason]
                  apply reasonless
                  rw [← sameStatus]
                  rintro isCancelled
                  have tabulated := (mem_of_stepForStatus selected).1
                  have isStatus := (mem_of_stepForStatus selected).2
                  simp only [SagaStep.precondition?, Option.some.injEq] at isStatus
                  rw [isCancelled] at isStatus
                  subst isStatus
                  revert tabulated
                  cases envelope.eventType <;> simp [sagaSteps]
            | cancel precondition mapped compensationSteps =>
                simp only [runStep, bind_eq_ok_iff, mapError_eq_ok_iff,
                  Except.ok.injEq] at handled
                rcases handled with ⟨reason, reasonMapped, other, cancelled, rfl⟩
                have isSaved : saved = other := by simpa using savedMem
                subst isSaved
                constructor
                · rw [(Order.cancel_eq_ok cancelled).2.2.2]
                · exact .cancel cancelled noEvents

end OrderToCash.Orders
