import OrderToCash.Saga.Lasting
import OrderToCash.Saga.StrandedCredit

/-!
# Facts that are handled again

The table of saga steps guards against a fact whose processed event is gone: it
finds the order moved on, or its command owed already.  One cancel leaves an
order that a fact handled before has not moved on: that of a confirmed order by
the branch for placed ones, which owes no credit release.
-/

namespace OrderToCash.Orders

open OrderToCash.Contracts
open OrderToCash.Kernel

namespace OrdersSystem

/-- The processed event of a fact is gone. -/
def withoutProcessed (system : OrdersSystem) (eventId : EventId) : OrdersSystem :=
  { system with
    db := { system.db with
      processedEvents := system.db.processedEvents.filter (· ≠ eventId) } }

/-- A fact is handled with its processed event gone, in a transaction of its own. -/
def handleAgain (system : OrdersSystem) (envelope : Envelope) : Option OrdersSystem :=
  (step (system.withoutProcessed envelope.eventId)
      (.beginFact envelope envelope.eventId.topic)).bind fun begun =>
    step begun (.commit system.openTransactions.length)

/-- Whatever is handled again writes what it decides on what is stored. -/
theorem handleAgain_eq_some {system after : OrdersSystem} {envelope : Envelope}
    (again : system.handleAgain envelope = some after) :
    ¬ IsSkipped envelope.eventType ∧
      ∃ work, handleFact (system.withoutProcessed envelope.eventId).db envelope
          envelope.eventId.topic = .ok work ∧
        after.db = applyWrites ((system.withoutProcessed envelope.eventId).db.recordProcessed
          envelope.eventId) work.writes := by
  rcases Option.bind_eq_some_iff.mp again with ⟨begun, isBegun, committed⟩
  simp only [step] at isBegun
  split at isBegun
  · cases isBegun
  · rename_i notSkipped
    refine ⟨notSkipped, ?_⟩
    cases isBegun
    have opened : ((system.withoutProcessed envelope.eventId).openTransaction
        (.handleFact envelope envelope.eventId.topic)).openTransactions[
          system.openTransactions.length]? =
        some ⟨.handleFact envelope envelope.eventId.topic,
          (system.withoutProcessed envelope.eventId).db⟩ :=
      List.getElem?_concat_length
    simp only [step, commit, opened] at committed
    cases commits_of_commitWork committed with
    | handleFact _ _ work isWork _ handled =>
        cases isWork
        exact ⟨work, handled, rfl⟩
    | cancelPlaced _ _ _ isWork | onFirstPark _ _ _ isWork => cases isWork

end OrdersSystem

/-- The order's status and reason are what they were, nothing was appended to the
outbox, and no command row was created. -/
structure OrdersDb.Unchanged (db db' : OrdersDb) (order : OrderNumber) : Prop where
  status : db'.statusOf order = db.statusOf order
  cancellationReason : (db'.orders order).bind OrderProps.cancellationReason =
    (db.orders order).bind OrderProps.cancellationReason
  outbox : db'.outbox = db.outbox
  commands : ∀ other kind, db.sagaCommands other kind = none →
    db'.sagaCommands other kind = none

/-- A row that exists is not inserted again. -/
theorem OrdersDb.enqueue_of_stored {db : OrdersDb} {order : OrderNumber}
    {kind : SagaCommandKind} (stored : db.sagaCommands order kind ≠ none)
    (row : SagaCommandRow) : db.enqueue order kind row = db := by
  unfold enqueue
  split
  · exact absurd ‹_› stored
  · rfl

end OrderToCash.Orders

namespace OrderToCash.Saga

open OrderToCash.Billing
open OrderToCash.Contracts
open OrderToCash.Fulfillment
open OrderToCash.Kernel
open OrderToCash.Orders
open OrderToCash.Transition

namespace OrderSaga

variable {saga saga' : OrderSaga} {label : Label}

/-- No confirmed order is cancelled without a credit release owed. -/
def ClaimsCancelled (saga : OrderSaga) (label : Label) : Prop :=
  ∀ read, label = .cancel read → saga.current.status = some .confirmed →
    saga.owed .creditRelease

/-- An order that an operator has cancelled owes the release of a credit whose
approval was handled. -/
def CancelledReturns (saga : OrderSaga) : Prop :=
  saga.handled .creditApproved → saga.current.status = some .cancelled →
    saga.current.reason = some .operatorCancelled → saga.owed .creditRelease

theorem CancelledReturns.of_same (returns : saga.CancelledReturns)
    (status : saga'.current.status = saga.current.status)
    (reason : saga'.current.reason = saga.current.reason)
    (owed : saga.owed .creditRelease → saga'.owed .creditRelease)
    (handled : saga'.handled = saga.handled) : saga'.CancelledReturns := by
  unfold CancelledReturns
  rw [status, reason, handled]
  exact fun isHandled isCancelled isFor => owed (returns isHandled isCancelled isFor)

theorem CancelledReturns.handle (coherent : saga.Coherent) (lasting : saga.Lasting)
    (returns : saga.CancelledReturns) {fact : SagaFact} {reaction : Reaction}
    (waits : saga.pending fact) (reacted : react saga.current fact = some reaction)
    (rest : Prop) : ((saga.consume fact rest).carryOut reaction).CancelledReturns := by
  unfold CancelledReturns
  cases reacts_of_react reacted with
  | ignored fact =>
      simp only [carryOut_handled, carryOut_owed, carryOut_current, after,
        Reaction.ignored, consume_handled, consume_owed, consume_current, reduceCtorEq,
        false_or]
      rintro (rfl | before) isCancelled isFor
      · exact absurd reacted (not_ignored_of_operatorCancelled isCancelled isFor)
      · exact returns before isCancelled isFor
  | late isLate => simp
  | released reason isStatus =>
      simp only [carryOut_handled, carryOut_owed, consume_handled, consume_owed,
        reduceCtorEq, false_or]
      exact fun isHandled _ _ => Or.inr (lasting.approving isHandled isStatus)
  | returned status isStatus held =>
      have owed := coherent.commands.returned (Or.inl waits)
      simp [owed]
  | placed isStatus | stockReserved isStatus | stockRejected isStatus | approved isStatus
  | creditRejected isStatus | releasedHeld _ _ isStatus | despatched isStatus
  | invoiced isStatus | paid isStatus | completed _ isStatus =>
      simp [after, isStatus, Reaction.advanced, Reaction.cancelled]

theorem CancelledReturns.move (lasts : saga.Lasts) (returns : saga.CancelledReturns)
    (fresh : saga.Fresh label) (claims : saga.ClaimsCancelled label)
    (moved : saga.Move label saga') : saga'.CancelledReturns := by
  have ⟨coherent, advances, _, lasting⟩ := lasts
  cases moved with
  | place unknown => rintro _ ⟨⟩
  | handle fact read reaction rest waits isPast reacts again =>
      cases fresh read rfl
      exact returns.handle coherent lasting waits reacts rest
  | cancel read status isPast isStatus cancellable =>
      cases fresh read rfl
      have standsFor := (coherent.past _ coherent.current).standsFor _ isStatus
      rintro isHandled - -
      have reserved := coherent.reserved_of_approved (Or.inr isHandled)
      rcases (OrderStatus.isCancellable_iff _).mp cancellable with rfl | rfl | rfl | rfl
      · exact absurd isStatus (advances.reserved reserved)
      · exact lasting.approving isHandled isStatus
      · exact absurd rfl standsFor.notApproving
      · exact claims _ rfl isStatus
  | firstPark read status isPast isStatus =>
      cases fresh read rfl
      have same := saved_self isStatus
      apply returns.of_same
      · exact congrArg Version.status same
      · exact congrArg Version.reason same
      · exact fun owed => owed
      · rfl
  | beginRelease => exact returns.of_same rfl rfl Or.inr rfl
  | _ =>
      apply returns.of_same
      · rfl
      · rfl
      · exact id
      · rfl

theorem cancelledReturns_of_reached
    (reached : Reached Move
      (fun saga label => saga.Orderly label ∧ saga.ClaimsCancelled label) initial saga) :
    saga.Lasts ∧ saga.CancelledReturns := by
  apply reached.invariant ⟨.initial, fun absurdity => absurdity.elim⟩
  rintro state label state' ⟨lasts, returns⟩ ⟨orderly, claims⟩ moved
  exact ⟨lasts.move orderly moved, returns.move lasts orderly.1 claims moved⟩

/-- The reaction saves the version that is there, and owes what is owed. -/
structure Idles (saga : OrderSaga) (reaction : Reaction) : Prop where
  saves : ∀ status reason, reaction.saves = some (status, reason) →
    saga.current.status = some status ∧ saga.current.reason = reason
  owes : ∀ kind, reaction.owes = some kind → saga.owed kind

/-- A fact that was handled idles when it is handled again. -/
theorem Lasts.idles (lasts : saga.Lasts) (returns : saga.CancelledReturns)
    {fact : SagaFact} {reaction : Reaction} (isHandled : saga.handled fact)
    (reacted : react saga.current fact = some reaction) :
    saga.Idles reaction := by
  have ⟨coherent, advances, _, lasting⟩ := lasts
  have standsFor := (coherent.past _ coherent.current).standsFor
  have reasonless : ∀ {status}, saga.current.status = some status → status ≠ .cancelled →
      saga.current.reason = none := fun isStatus => (standsFor _ isStatus).reasonless
  cases reacts_of_react reacted with
  | ignored fact => constructor <;> simp [Reaction.ignored]
  | late isLate =>
      constructor
      · simp
      · rintro kind ⟨⟩
        have atStatus := isLate.2
        split at atStatus
        · exact returns isHandled ‹_› atStatus
        · exact lasting.approving isHandled atStatus.1
  | placed isStatus =>
      constructor
      · rintro status reason ⟨⟩
        exact ⟨isStatus, reasonless isStatus (by simp)⟩
      · rintro kind ⟨⟩
        exact lasting.placing isHandled isStatus
  | stockReserved isStatus => exact absurd isStatus (advances.reserved isHandled)
  | stockRejected isStatus => exact absurd isStatus (lasting.stockRejected isHandled)
  | approved isStatus onTime =>
      rw [advances.approved isHandled isStatus] at onTime
      cases onTime
  | creditRejected isStatus =>
      constructor
      · rintro status reason ⟨⟩
        exact ⟨isStatus, reasonless isStatus (by simp)⟩
      · rintro kind ⟨⟩
        exact lasting.rejecting isHandled isStatus
  | released reason isStatus => exact absurd isStatus (advances.released reason isHandled)
  | releasedHeld reason status isStatus held =>
      have isConfirmed := held.resolve_left (standsFor _ isStatus).notApproving
      subst isConfirmed
      constructor
      · rintro status reason ⟨⟩
        exact ⟨isStatus, reasonless isStatus (by simp)⟩
      · rintro kind ⟨⟩
        exact lasting.releasing reason isHandled isStatus
  | despatched isStatus => exact absurd isStatus (advances.despatched isHandled)
  | invoiced isStatus =>
      have isInvoiced := advances.invoiced isHandled
      simp [IsInvoiced, isStatus] at isInvoiced
  | paid isStatus =>
      have isPaid := advances.paid isHandled
      simp [isStatus] at isPaid
  | completed reason isStatus => exact absurd isStatus (lasting.completing reason isHandled)
  | returned status isStatus held =>
      have isConfirmed := held.resolve_left (standsFor _ isStatus).notApproving
      subst isConfirmed
      exact absurd isStatus (lasting.returned isHandled)

end OrderSaga

variable {order : OrderNumber} {system : SagaSystem} {saga : OrderSaga}
  {action : SagaAction} {label : OrderSaga.Label}

/-- Saving the version that is there, with nothing to announce, changes nothing. -/
theorem unchanged_of_save {db : OrdersDb} {saved : Order}
    (ofOrder : saved.props.orderReference = order)
    (silent : saved.domainEvents = [])
    (status : (db.version order).status = some saved.props.status)
    (reason : (db.version order).reason = saved.props.cancellationReason) :
    db.Unchanged (db.save saved) order := by
  have version : (db.save saved).version order = db.version order := by
    rw [OrdersDb.save_version ofOrder, ← reason]
    exact OrderSaga.saved_self status
  constructor
  · exact congrArg Version.status version
  · exact congrArg Version.reason version
  · change db.outbox ++ saved.domainEvents = db.outbox
    rw [silent, List.append_nil]
  · exact fun other kind absent => absent

/-- What an idle reaction writes changes nothing. -/
theorem unchanged_of_idles {db : OrdersDb} {envelope : Envelope} {sourceTopic : Topic}
    {reaction : Reaction} {writes : List OrdersWrite}
    (tables : Tables envelope.correlationId db saga) (idles : saga.Idles reaction)
    (written : reaction.Writes envelope sourceTopic saga.current writes) :
    db.Unchanged (applyWrites db writes) envelope.correlationId := by
  have stored : ∀ kind, reaction.owes = some kind →
      db.sagaCommands envelope.correlationId kind ≠ none := by
    intro kind owes absent
    apply (tables.owed kind).mp (idles.owes kind owes)
    rw [OrdersDb.commands, absent]
    rfl
  have save : ∀ saved : Order, Saves envelope saga.current saved →
      reaction.saves = some (saved.props.status, saved.props.cancellationReason) →
        db.Unchanged (db.save saved) envelope.correlationId := by
    intro saved saves isSaved
    rcases idles.saves _ _ isSaved with ⟨status, reason⟩
    have silent := saves.stays status
    rw [tables.current] at status reason
    exact unchanged_of_save saves.ofOrder silent status reason
  cases written with
  | ignored ignored => exact ⟨rfl, rfl, rfl, fun _ _ absent => absent⟩
  | late payload enqueues =>
      simp only [applyWrites, OrdersWrite.apply]
      rw [OrdersDb.enqueue_of_stored (stored _ rfl)]
      exact ⟨rfl, rfl, rfl, fun _ _ absent => absent⟩
  | saves saved saves => exact save saved saves rfl
  | savesOwing saved payload saves enqueues =>
      simp only [applyWrites, OrdersWrite.apply]
      rw [OrdersDb.enqueue_of_stored]
      · exact save saved saves rfl
      · exact stored _ rfl

namespace SagaSystem

/-- What the transaction would leave of a confirmed order has its credit release. -/
def ClaimsCancelled (system : SagaSystem) (order : OrderNumber) :
    OrdersTransaction → Prop
  | .cancelPlaced _ =>
      system.orders.db.statusOf order = some .confirmed →
        (system.orders.db.sagaCommands order .creditRelease).isSome
  | _ => True

instance (system : SagaSystem) (order : OrderNumber) :
    ∀ work, Decidable (system.ClaimsCancelled order work)
  | .cancelPlaced _ => inferInstanceAs (Decidable (_ → _))
  | .handleFact _ _ | .onFirstPark _ _ => instDecidableTrue

/-- The transactions on the order are serial and its facts in order, and no placed
branch of a cancel commits at a confirmed order without a credit release owed. -/
def CancelsClaimed (order : OrderNumber) : Guard SagaSystem SagaAction :=
  fun system action => Orderly order system action ∧
    match action with
    | .orders (.commit index) =>
        ∀ opened ∈ system.orders.openTransactions[index]?, opened.work.order = order →
          system.ClaimsCancelled order opened.work
    | _ => True

instance (order : OrderNumber) (system : SagaSystem) :
    ∀ action, Decidable (CancelsClaimed order system action)
  | .orders (.commit index) =>
      inferInstanceAs (Decidable (_ ∧
        ∀ opened ∈ system.orders.openTransactions[index]?, _ → _))
  | .orders (.place ..) | .orders (.beginFact ..) | .orders (.readForCancel ..)
  | .orders (.actOnCancel _) | .orders (.rollback _) | .orders (.markSent ..)
  | .orders (.markRejected ..) | .orders (.park ..) | .orders (.claimDeadLetter _)
  | .orders (.beginFirstPark _) | .fulfillment _ | .billing _ =>
      inferInstanceAs (Decidable (_ ∧ True))

/-- Whatever fact of the order was handled changes nothing when it is handled
again, its processed event gone. -/
def ReplaysIdle (system : SagaSystem) (order : OrderNumber) : Prop :=
  ∀ envelope, envelope.correlationId = order → system.Published envelope →
    envelope.eventId ∈ system.orders.db.processedEvents →
      ∀ after ∈ system.orders.handleAgain envelope,
        system.orders.db.Unchanged after.db order

end SagaSystem

/-- Where no commit leaves a confirmed order's credit unclaimed, no move does. -/
theorem Represents.claimsCancelled (represents : Represents order system saga)
    (claimed : SagaSystem.CancelsClaimed order system action)
    (explained : Explains order system action label) : saga.ClaimsCancelled label := by
  rintro read rfl isConfirmed
  rcases explained.exists_cancelPlaced with ⟨index, opened, rfl, found, work⟩
  have claims := claimed.2 opened found (by rw [work]; rfl)
  rw [work] at claims
  rw [represents.status_eq] at isConfirmed
  exact represents.owed_of_isSome (claims isConfirmed)

/-- In every orderly run whose cancels of confirmed orders owe the release, a fact
that is handled again changes nothing. -/
theorem replays_idle {stock : StockCatalogue} {credits : CreditCatalogue}
    (reached : Reachable SagaSystem.step (SagaSystem.CancelsClaimed order)
      (SagaSystem.initial stock credits) system) : system.ReplaysIdle order := by
  rcases exists_orderly_run (fun _ _ claimed => claimed.1)
    (fun _ _ _ _ represents claimed explained =>
      represents.claimsCancelled claimed explained) reached with ⟨saga, orderly, run⟩
  have ⟨lasts, returns⟩ := OrderSaga.cancelledReturns_of_reached run
  have view := orderly.represents.orders
  rintro envelope rfl published isProcessed after again
  rcases OrdersSystem.handleAgain_eq_some again with ⟨notSkipped, work, handled, written⟩
  cases isFact : sagaFact? envelope.fact with
  | none => exact absurd (isSkipped_iff.mpr isFact) notSkipped
  | some fact =>
      have isHandled := view.delivery.handled_of_processed published
        (read_eq_some.mpr ⟨rfl, isFact⟩) isProcessed
      have keyed : (system.orders.withoutProcessed envelope.eventId).db.Keyed :=
        view.tables.keyed
      rcases reaction_of_handleFact keyed isFact handled with ⟨reaction, reacted, writes⟩
      have current : (system.orders.withoutProcessed envelope.eventId).db.version
          envelope.correlationId = saga.current := view.tables.current.symm
      rw [current] at reacted writes
      have tables : Tables envelope.correlationId
          ((system.orders.withoutProcessed envelope.eventId).db.recordProcessed
            envelope.eventId) saga :=
        view.tables.congr keyed rfl rfl rfl rfl rfl
      have unchanged := unchanged_of_idles tables (lasts.idles returns isHandled reacted) writes
      rw [← written] at unchanged
      exact ⟨unchanged.status, unchanged.cancellationReason, unchanged.outbox,
        unchanged.commands⟩

/-! ## An approval that is handled again once its order is cancelled -/

/-- Handling the first fact of Billing again creates a credit release. -/
def releasesAgain (system : SagaSystem) : Bool :=
  (system.billing.db.outbox[0]?).any fun fact =>
    (system.orders.handleAgain ⟨⟨.billing, 0⟩, fact⟩).any fun after =>
      decide (fact.orderReference = ⟨1⟩ ∧
        (⟨.billing, 0⟩ : EventId) ∈ system.orders.db.processedEvents ∧
          system.orders.db.sagaCommands ⟨1⟩ .creditRelease = none ∧
            (after.db.sagaCommands ⟨1⟩ .creditRelease).isSome)

theorem approval_replayed :
    ¬ ∀ (order : OrderNumber) (stock : StockCatalogue) (credits : CreditCatalogue)
        (system : SagaSystem),
      Reachable SagaSystem.step (SagaSystem.Orderly order)
        (SagaSystem.initial stock credits) system → system.ReplaysIdle order := by
  intro claimed
  have ran : (execute (choosing SagaSystem.step)
      (fun state choose => decide (SagaSystem.Orderly ⟨1⟩ state (choose state)))
      (SagaSystem.initial FulfillmentSystem.twoProducts tenThousandLimit)
      (cancelledOnceConfirmed.take 16)).any releasesAgain = true := by
    decide +kernel
  rcases (Option.any_eq_true _ _).mp ran with ⟨system, executed, releases⟩
  rcases (Option.any_eq_true _ _).mp releases with ⟨fact, isFact, released⟩
  rcases (Option.any_eq_true _ _).mp released with ⟨after, again, holds⟩
  rcases of_decide_eq_true holds with ⟨ofOrder, isProcessed, absent, created⟩
  have unchanged := claimed ⟨1⟩ _ _ system (reachable_of_choices executed)
    ⟨⟨.billing, 0⟩, fact⟩ ofOrder isFact isProcessed after again
  rw [unchanged.commands ⟨1⟩ .creditRelease absent] at created
  cases created

theorem replays_idle_once_reserved :
    ∃ system, Reachable SagaSystem.step (SagaSystem.CancelsClaimed ⟨1⟩)
        (SagaSystem.initial FulfillmentSystem.twoProducts tenThousandLimit) system ∧
      system.orders.db.statusOf ⟨1⟩ = some .cancelled ∧
        system.orders.db.processedEvents.length = 5 ∧ system.ReplaysIdle ⟨1⟩ := by
  have ran : (execute (choosing SagaSystem.step)
      (fun state choose => decide (SagaSystem.CancelsClaimed ⟨1⟩ state (choose state)))
      (SagaSystem.initial FulfillmentSystem.twoProducts tenThousandLimit)
      cancelledOnceReserved).any
        (fun system => decide (system.orders.db.statusOf ⟨1⟩ = some .cancelled ∧
          system.orders.db.processedEvents.length = 5)) = true := by
    decide +kernel
  rcases (Option.any_eq_true _ _).mp ran with ⟨system, executed, holds⟩
  have ⟨cancelled, processed⟩ := of_decide_eq_true holds
  have reached := reachable_of_choices executed
  exact ⟨system, reached, cancelled, processed, replays_idle reached⟩

end OrderToCash.Saga
