import OrderToCash.Orders.CommittedStatus

/-!
# The reaction to a fact

What handling a fact makes of an order depends on the fact's type and release
reason, and of the order on its status, its cancellation reason and whether an
operator's cancel request is on record.  `react` tabulates it; the body of a
fact's transaction writes what the table says.
-/

namespace OrderToCash.Orders

open OrderToCash.Checked
open OrderToCash.Contracts
open OrderToCash.Kernel

/-- The facts the saga acts on, as far as it depends on them. -/
inductive SagaFact
  | orderPlaced
  | stockReserved
  | stockRejected
  | stockReleased (reason : StockReleaseReason)
  | orderDespatched
  | creditApproved
  | creditRejected
  | creditReleased (reason : CreditReleaseReason)
  | invoiceIssued
  | paymentReceived
deriving DecidableEq, Repr

/-- What the saga sees of a fact; nothing of a skipped one. -/
def sagaFact? : Fact → Option SagaFact
  | .orderPlaced _ => some .orderPlaced
  | .orderConfirmed _ => none
  | .orderCompleted _ => none
  | .orderCancelled _ => none
  | .orderSagaFailed _ => none
  | .stockReserved _ => some .stockReserved
  | .stockRejected _ => some .stockRejected
  | .stockReleased payload => some (.stockReleased payload.reason)
  | .orderDespatched _ => some .orderDespatched
  | .creditApproved _ => some .creditApproved
  | .creditRejected _ => some .creditRejected
  | .creditReleased payload => some (.creditReleased payload.reason)
  | .invoiceIssued _ => some .invoiceIssued
  | .paymentReceived _ => some .paymentReceived

/-- The topic of the service that emits the fact. -/
def SagaFact.topic : SagaFact → Topic
  | .orderPlaced => .orders
  | .stockReserved | .stockRejected | .stockReleased _ | .orderDespatched =>
      .fulfillment
  | .creditApproved | .creditRejected | .creditReleased _ | .invoiceIssued
  | .paymentReceived => .billing

/-- What handling a fact depends on of an order. -/
structure Version where
  status : Option OrderStatus
  reason : Option CancellationReason
  accepted : Bool
deriving DecidableEq, Repr

def OrdersDb.version (db : OrdersDb) (order : OrderNumber) : Version :=
  { status := db.statusOf order
    reason := (db.orders order).bind OrderProps.cancellationReason
    accepted := db.hasAcceptedOperatorCancel order }

/-- What handling a fact saves of the order, and the command it owes. -/
structure Reaction where
  saves : Option (OrderStatus × Option CancellationReason)
  owes : Option SagaCommandKind
deriving DecidableEq, Repr

namespace Reaction

def ignored : Reaction := ⟨none, none⟩

def advanced (status : OrderStatus) (owes : Option SagaCommandKind) : Reaction :=
  ⟨some (status, none), owes⟩

def cancelled (reason : CancellationReason) : Reaction :=
  ⟨some (.cancelled, some reason), none⟩

end Reaction

/-- A credit approval that finds an accepted cancel. -/
def Version.IsLate (version : Version) (fact : SagaFact) : Prop :=
  fact = .creditApproved ∧
    if version.status = some .cancelled then
      version.reason = some .operatorCancelled
    else
      version.status = some .stockReserved ∧ version.accepted = true

instance (version : Version) (fact : SagaFact) : Decidable (version.IsLate fact) := by
  unfold Version.IsLate
  infer_instance

/-- The step table as a function of the fact and the status; nothing where the
step refuses the fact's reason. -/
def stepReaction : SagaFact → OrderStatus → Option Reaction
  | .orderPlaced, .placed => some (.advanced .placed (some .stockReserve))
  | .stockReserved, .placed =>
      some (.advanced .stockReserved (some .creditHold))
  | .stockRejected, .placed => some (.cancelled .stockRejected)
  | .creditApproved, .stockReserved =>
      some (.advanced .confirmed (some .despatchCreate))
  | .creditRejected, .stockReserved =>
      some (.advanced .stockReserved (some .stockRelease))
  | .stockReleased .creditRejected, .stockReserved =>
      some (.cancelled .creditRejected)
  | .stockReleased .orderCancelled, .stockReserved =>
      some (.cancelled .operatorCancelled)
  | .stockReleased _, .creditApproved =>
      some (.advanced .creditApproved (some .creditRelease))
  | .stockReleased _, .confirmed =>
      some (.advanced .confirmed (some .creditRelease))
  | .orderDespatched, .confirmed =>
      some (.advanced .despatched (some .invoiceIssue))
  | .invoiceIssued, .despatched => some (.advanced .invoiced none)
  | .paymentReceived, .invoiced => some (.advanced .paid none)
  | .creditReleased _, .paid => some (.advanced .completed none)
  | .creditReleased .orderCancelled, .creditApproved =>
      some (.cancelled .operatorCancelled)
  | .creditReleased .orderCancelled, .confirmed =>
      some (.cancelled .operatorCancelled)
  | .creditReleased .invoicePaid, .creditApproved => none
  | .creditReleased .invoicePaid, .confirmed => none
  | _, _ => some .ignored

/-- What handling a fact makes of an order. -/
def react (version : Version) (fact : SagaFact) : Option Reaction :=
  match version.status with
  | none => some .ignored
  | some status =>
      if version.IsLate fact then
        some ⟨none, some .creditRelease⟩
      else
        stepReaction fact status

/-- The cancellation reason a released stock stands for. -/
def reasonOfRelease : StockReleaseReason → CancellationReason
  | .creditRejected => .creditRejected
  | .orderCancelled => .operatorCancelled

/-- The reactions of the table, one by one. -/
inductive Reacts (read : Version) : SagaFact → Reaction → Prop
  | ignored (fact : SagaFact) : Reacts read fact .ignored
  | late (isLate : read.IsLate .creditApproved) :
      Reacts read .creditApproved ⟨none, some .creditRelease⟩
  | placed (status : read.status = some .placed) :
      Reacts read .orderPlaced (.advanced .placed (some .stockReserve))
  | stockReserved (status : read.status = some .placed) :
      Reacts read .stockReserved (.advanced .stockReserved (some .creditHold))
  | stockRejected (status : read.status = some .placed) :
      Reacts read .stockRejected (.cancelled .stockRejected)
  | approved (status : read.status = some .stockReserved)
      (onTime : read.accepted = false) :
      Reacts read .creditApproved (.advanced .confirmed (some .despatchCreate))
  | creditRejected (status : read.status = some .stockReserved) :
      Reacts read .creditRejected (.advanced .stockReserved (some .stockRelease))
  | released (reason : StockReleaseReason)
      (status : read.status = some .stockReserved) :
      Reacts read (.stockReleased reason) (.cancelled (reasonOfRelease reason))
  | releasedHeld (reason : StockReleaseReason) (status : OrderStatus)
      (isStatus : read.status = some status)
      (held : status = .creditApproved ∨ status = .confirmed) :
      Reacts read (.stockReleased reason) (.advanced status (some .creditRelease))
  | despatched (status : read.status = some .confirmed) :
      Reacts read .orderDespatched (.advanced .despatched (some .invoiceIssue))
  | invoiced (status : read.status = some .despatched) :
      Reacts read .invoiceIssued (.advanced .invoiced none)
  | paid (status : read.status = some .invoiced) :
      Reacts read .paymentReceived (.advanced .paid none)
  | completed (reason : CreditReleaseReason) (status : read.status = some .paid) :
      Reacts read (.creditReleased reason) (.advanced .completed none)
  | returned (status : OrderStatus) (isStatus : read.status = some status)
      (held : status = .creditApproved ∨ status = .confirmed) :
      Reacts read (.creditReleased .orderCancelled) (.cancelled .operatorCancelled)

theorem reacts_of_react {read : Version} {fact : SagaFact} {reaction : Reaction}
    (reacted : react read fact = some reaction) : Reacts read fact reaction := by
  unfold react at reacted
  split at reacted
  · cases reacted
    exact .ignored fact
  · rename_i status isStatus
    split at reacted
    · rename_i isLate
      cases reacted
      cases isLate.1
      exact .late isLate
    · rename_i onTime
      unfold stepReaction at reacted
      split at reacted <;> cases reacted
      · exact .placed isStatus
      · exact .stockReserved isStatus
      · exact .stockRejected isStatus
      · apply Reacts.approved isStatus
        simpa [Version.IsLate, isStatus] using onTime
      · exact .creditRejected isStatus
      · exact .released .creditRejected isStatus
      · exact .released .orderCancelled isStatus
      · exact .releasedHeld _ _ isStatus (Or.inl rfl)
      · exact .releasedHeld _ _ isStatus (Or.inr rfl)
      · exact .despatched isStatus
      · exact .invoiced isStatus
      · exact .paid isStatus
      · exact .completed _ isStatus
      · exact .returned _ isStatus (Or.inl rfl)
      · exact .returned _ isStatus (Or.inr rfl)
      · exact .ignored _

/-! ## The table is the step table -/

theorem isSkipped_iff {fact : Fact} :
    IsSkipped fact.eventType ↔ sagaFact? fact = none := by
  cases fact <;> simp [IsSkipped, sagaSteps, Fact.eventType, sagaFact?,
    SagaStep.precondition?]

/-- Some released stock and some released credit are ignored for every reason. -/
theorem stepReaction_stockReleased (reason : StockReleaseReason)
    {status : OrderStatus} (notReserved : status ≠ .stockReserved)
    (notApproved : status ≠ .creditApproved) (notConfirmed : status ≠ .confirmed) :
    stepReaction (.stockReleased reason) status = some .ignored := by
  cases reason <;> cases status <;> first | rfl | contradiction

theorem stepReaction_of_none {fact : Fact} {sagaFact : SagaFact} {status : OrderStatus}
    (isFact : sagaFact? fact = some sagaFact)
    (noStep : stepForStatus fact.eventType status = none) :
    stepReaction sagaFact status = some .ignored := by
  cases fact with
  | stockReleased payload =>
      cases isFact
      apply stepReaction_stockReleased
      · rintro rfl
        simp [stepForStatus, sagaSteps, Fact.eventType, SagaStep.precondition?] at noStep
      · rintro rfl
        simp [stepForStatus, sagaSteps, Fact.eventType, SagaStep.precondition?] at noStep
      · rintro rfl
        simp [stepForStatus, sagaSteps, Fact.eventType, SagaStep.precondition?] at noStep
  | _ =>
      cases isFact <;> cases status <;>
        first
        | rfl
        | simp [stepForStatus, sagaSteps, Fact.eventType, SagaStep.precondition?] at noStep

/-- An advance keeps the order's cancellation reason, which an order that can
still advance has none of. -/
theorem stepReaction_of_advance {fact : Fact} {sagaFact : SagaFact}
    {status precondition : OrderStatus} {apply : Order → Except OrderError Order}
    {commandAfter : Option SagaCommandKind}
    (isFact : sagaFact? fact = some sagaFact)
    (step : stepForStatus fact.eventType status =
      some (.advance precondition apply commandAfter)) :
    status ≠ .cancelled ∧
      stepReaction sagaFact status =
        some (.advanced (advancedStatus fact.eventType status) commandAfter) := by
  cases fact <;> cases isFact <;> cases status <;>
    simp [stepForStatus, sagaSteps, Fact.eventType, SagaStep.precondition?] at step <;>
    simp [stepReaction, advancedStatus, Fact.eventType, ← step.2.2]

theorem stepReaction_of_cancel {fact : Fact} {sagaFact : SagaFact}
    {status precondition : OrderStatus}
    {mapped : Fact → Except HandlerError CancellationReason}
    {compensationSteps : Envelope → List CompensationStep}
    {reason : CancellationReason} (isFact : sagaFact? fact = some sagaFact)
    (step : stepForStatus fact.eventType status =
      some (.cancel precondition mapped compensationSteps))
    (reasonMapped : mapped fact = .ok reason) :
    stepReaction sagaFact status = some (.cancelled reason) := by
  cases fact with
  | stockRejected payload =>
      cases isFact
      cases status <;>
        simp [stepForStatus, sagaSteps, Fact.eventType, SagaStep.precondition?] at step
      rcases step with ⟨_, rfl, _⟩
      cases reasonMapped
      rfl
  | stockReleased payload =>
      cases isFact
      cases status <;>
        simp [stepForStatus, sagaSteps, Fact.eventType, SagaStep.precondition?] at step
      rcases step with ⟨_, rfl, _⟩
      cases released : payload.reason
      all_goals
        simp only [stockReleaseReason?, mapReason, released] at reasonMapped
        cases reasonMapped
        rfl
  | creditReleased payload =>
      cases isFact
      cases status <;>
        simp [stepForStatus, sagaSteps, Fact.eventType, SagaStep.precondition?] at step
      all_goals
        rcases step with ⟨_, rfl, _⟩
        cases released : payload.reason
      all_goals
        simp only [creditReleaseReason?, mapCreditReleaseReason, released] at reasonMapped
        cases reasonMapped
      all_goals rfl
  | _ =>
      cases isFact <;> cases status <;>
        simp [stepForStatus, sagaSteps, Fact.eventType, SagaStep.precondition?] at step


/-! ## What the table makes a transaction write -/

def SagaCommandPayload.kind : SagaCommandPayload → SagaCommandKind
  | .stockReserve _ => .stockReserve
  | .stockRelease _ => .stockRelease
  | .despatchCreate _ => .despatchCreate
  | .creditHold _ => .creditHold
  | .invoiceIssue _ => .invoiceIssue
  | .creditRelease _ => .creditRelease

def SagaCommandPayload.order : SagaCommandPayload → OrderNumber
  | .stockReserve request => request.orderReference
  | .stockRelease request => request.orderReference
  | .despatchCreate request => request.orderReference
  | .creditHold request => request.orderReference
  | .invoiceIssue request => request.orderReference
  | .creditRelease request => request.orderReference

/-- A command row carries the payload. -/
def OrdersDb.Owes (db : OrdersDb) (payload : SagaCommandPayload) : Prop :=
  (db.sagaCommands payload.order payload.kind).map SagaCommandRow.payload =
    some payload

instance (db : OrdersDb) (payload : SagaCommandPayload) :
    Decidable (db.Owes payload) :=
  inferInstanceAs (Decidable (_ = _))

/-- A payload is of the command it was built for and of the order it was built
from. -/
theorem payload_of_build {kind : SagaCommandKind} {order : OrderProps}
    {envelope : Envelope} {payload : SagaCommandPayload}
    (built : buildSagaCommandPayload kind order envelope = .ok payload) :
    payload.kind = kind ∧ payload.order = order.orderReference ∧
      (kind = .stockRelease →
        payload = .stockRelease ⟨order.orderReference, .creditRejected⟩) := by
  cases kind with
  | stockReserve =>
      simp only [buildSagaCommandPayload, bind_eq_ok_iff, Except.ok.injEq] at built
      rcases built with ⟨lines, _, rfl⟩
      exact ⟨rfl, rfl, by simp⟩
  | stockRelease =>
      simp only [buildSagaCommandPayload, stockReleaseReasonFor, bind_eq_ok_iff,
        Except.ok.injEq] at built
      rcases built with ⟨reason, mapped, rfl⟩
      split at mapped
      · cases mapped
        exact ⟨rfl, rfl, fun _ => rfl⟩
      · cases mapped
  | despatchCreate | creditHold | creditRelease =>
      cases built
      exact ⟨rfl, rfl, by simp⟩
  | invoiceIssue =>
      simp only [buildSagaCommandPayload, bind_eq_ok_iff, Except.ok.injEq] at built
      rcases built with ⟨lines, _, rfl⟩
      exact ⟨rfl, rfl, by simp⟩

/-- The saga sees nothing of the facts the order has yet to publish. -/
def Order.Silent (order : Order) : Prop :=
  ∀ fact ∈ order.domainEvents, sagaFact? fact = none

theorem Order.Silent.transitionTo {order order' : Order} (silent : order.Silent)
    {target : OrderStatus} {reason : Option CancellationReason}
    {buildEvent : Option (OrderProps → Fact)}
    (unseen : ∀ build ∈ buildEvent, ∀ props, sagaFact? (build props) = none)
    (accepted : order.transitionTo target reason buildEvent = .ok order') :
    order'.Silent := by
  unfold Order.transitionTo at accepted
  split at accepted
  · cases accepted
  · split at accepted
    · rename_i _ build _
      cases accepted
      intro fact factMem
      rcases List.mem_append.mp factMem with before | new
      · exact silent fact before
      · rw [List.mem_singleton.mp new]
        exact unseen build rfl _
    · cases accepted
      exact silent

theorem Order.Silent.cancel {order order' : Order} (silent : order.Silent)
    {reason : CancellationReason} {compensationSteps : List CompensationStep}
    (accepted : order.cancel reason compensationSteps = .ok order') :
    order'.Silent := by
  simp only [Order.cancel, ite_error_eq_ok_iff] at accepted
  rcases accepted with ⟨_, _, _, transitioned⟩
  apply silent.transitionTo _ transitioned
  rintro build ⟨⟩ props
  rfl

/-- An advance publishes nothing the saga sees. -/
theorem Order.Silent.advance {eventType : EventType} {status precondition : OrderStatus}
    {apply : Order → Except OrderError Order} {commandAfter : Option SagaCommandKind}
    {order order' : Order} (silent : order.Silent)
    (found : stepForStatus eventType status =
      some (.advance precondition apply commandAfter))
    (applied : apply order = .ok order') : order'.Silent := by
  have none : ∀ build ∈ (none : Option (OrderProps → Fact)),
      ∀ props, sagaFact? (build props) = none := by
    rintro build ⟨⟩
  have member := (mem_of_stepForStatus found).1
  cases eventType <;>
    simp only [sagaSteps, List.mem_cons, List.not_mem_nil, or_false, reduceCtorEq,
      SagaStep.advance.injEq, false_or, or_self] at member
  case orderPlaced | creditRejected =>
    rcases member with ⟨_, rfl, _⟩
    cases applied
    exact silent
  case stockReserved | orderDespatched | invoiceIssued | paymentReceived =>
    rcases member with ⟨_, rfl, _⟩
    exact silent.transitionTo none applied
  case creditApproved =>
    rcases member with ⟨_, rfl, _⟩
    simp only [bind_eq_ok_iff] at applied
    rcases applied with ⟨approved, first, second⟩
    apply (silent.transitionTo none first).transitionTo _ second
    rintro build ⟨⟩ props
    rfl
  case stockReleased =>
    rcases member with ⟨_, rfl, _⟩ | ⟨_, rfl, _⟩
    · cases applied
      exact silent
    · cases applied
      exact silent
  case creditReleased =>
    rcases member with ⟨_, rfl, _⟩
    apply silent.transitionTo _ applied
    rintro build ⟨⟩ props
    rfl

/-- An advance that stays in the status publishes nothing more at all. -/
theorem domainEvents_of_advance {eventType : EventType}
    {status precondition : OrderStatus} {apply : Order → Except OrderError Order}
    {commandAfter : Option SagaCommandKind} {order order' : Order}
    (found : stepForStatus eventType status =
      some (.advance precondition apply commandAfter))
    (applied : apply order = .ok order') (stays : advancedStatus eventType status = status) :
    order'.domainEvents = order.domainEvents := by
  rcases mem_of_stepForStatus found with ⟨member, precondition⟩
  simp only [SagaStep.precondition?, Option.some.injEq] at precondition
  cases eventType <;>
    simp only [sagaSteps, List.mem_cons, List.not_mem_nil, or_false, reduceCtorEq,
      SagaStep.advance.injEq, false_or, or_self] at member
  case orderPlaced | creditRejected =>
    rcases member with ⟨_, rfl, _⟩
    cases applied
    rfl
  case stockReleased =>
    rcases member with ⟨_, rfl, _⟩ | ⟨_, rfl, _⟩
    · cases applied
      rfl
    · cases applied
      rfl
  all_goals
    rcases member with ⟨rfl, _, _⟩
    subst precondition
    cases stays

/-- A rebuilt order is silent, and has a cancellation reason only if it is
cancelled. -/
theorem silent_of_reconstitute {row : OrderProps} {loaded : Order}
    (rebuilt : Order.reconstitute row = .ok loaded) :
    loaded.domainEvents = [] ∧
      (row.status ≠ .cancelled → row.cancellationReason = none) := by
  simp only [Order.reconstitute, ite_error_eq_ok_iff, bind_eq_ok_iff,
    Except.ok.injEq] at rebuilt
  rcases rebuilt with ⟨_, _, consistent, totals, _, rfl⟩
  constructor
  · rfl
  · intro notCancelled
    by_contra some
    exact consistent ⟨notCancelled, some⟩

/-- The command row a fact enqueues. -/
structure Enqueues (envelope : Envelope) (payload : SagaCommandPayload) : Prop where
  ofOrder : payload.order = envelope.correlationId
  release : payload.kind = .stockRelease →
    payload = .stockRelease ⟨envelope.correlationId, .creditRejected⟩

/-- The order a fact's transaction saves, where it read the version. -/
structure Saves (envelope : Envelope) (version : Version) (saved : Order) : Prop where
  ofOrder : saved.props.orderReference = envelope.correlationId
  silent : saved.Silent
  stays : version.status = some saved.props.status → saved.domainEvents = []

/-- The writes of a fact's transaction that carry out a reaction to the version
it read. -/
inductive Reaction.Writes (envelope : Envelope) (sourceTopic : Topic)
    (version : Version) : Reaction → List OrdersWrite → Prop
  | ignored (ignored : IgnoredFact) :
      Writes envelope sourceTopic version .ignored [.recordIgnored ignored]
  | late (payload : SagaCommandPayload) (enqueues : Enqueues envelope payload) :
      Writes envelope sourceTopic version ⟨none, some payload.kind⟩
        [.enqueue envelope.correlationId payload.kind
          (.enqueued payload (.fact envelope) sourceTopic)]
  | saves (saved : Order) (saves : Saves envelope version saved) :
      Writes envelope sourceTopic version
        ⟨some (saved.props.status, saved.props.cancellationReason), none⟩
        [.save saved]
  | savesOwing (saved : Order) (payload : SagaCommandPayload)
      (saves : Saves envelope version saved) (enqueues : Enqueues envelope payload) :
      Writes envelope sourceTopic version
        ⟨some (saved.props.status, saved.props.cancellationReason),
          some payload.kind⟩
        [.save saved, .enqueue envelope.correlationId payload.kind
          (.enqueued payload (.fact envelope) sourceTopic)]

/-- Lateness in the table is lateness in the handler. -/
theorem isLate_iff {db : OrdersDb} {row : OrderProps} {envelope : Envelope}
    {sagaFact : SagaFact} (isFact : sagaFact? envelope.fact = some sagaFact)
    (stored : db.orders envelope.correlationId = some row)
    (ofOrder : row.orderReference = envelope.correlationId) :
    (db.version envelope.correlationId).IsLate sagaFact ↔
      LateForAcceptedOperatorCancel db row envelope := by
  have approval : sagaFact = .creditApproved ↔ envelope.eventType = .creditApproved := by
    unfold Envelope.eventType
    cases fact : envelope.fact <;> rw [fact] at isFact <;> cases isFact <;>
      simp [Fact.eventType]
  simp [Version.IsLate, LateForAcceptedOperatorCancel, approval, OrdersDb.version,
    OrdersDb.statusOf, stored, ofOrder]

/-- An order that a transaction has loaded, beside the version of it that was read. -/
structure Order.LoadedAs (loaded : Order) (order : OrderNumber) (read : Version) :
    Prop where
  ofOrder : loaded.props.orderReference = order
  status : read.status = some loaded.props.status
  noEvents : loaded.domainEvents = []
  reasonless : loaded.props.status ≠ .cancelled →
    loaded.props.cancellationReason = none

namespace Order.LoadedAs

variable {loaded : Order} {read : Version} {envelope : Envelope} {sourceTopic : Topic}
  {work : FactWork} {precondition : OrderStatus}

theorem silent {order : OrderNumber} (isLoaded : loaded.LoadedAs order read) :
    loaded.Silent := by
  intro fact factMem
  rw [isLoaded.noEvents] at factMem
  cases factMem

/-- A late approval owes the credit's release and saves nothing. -/
theorem writes_of_late (isLoaded : loaded.LoadedAs envelope.correlationId read)
    {write : OrdersWrite}
    (enqueued : enqueueForFact .creditRelease loaded.props envelope sourceTopic =
      .ok write) :
    Reaction.Writes envelope sourceTopic read ⟨none, some .creditRelease⟩ [write] := by
  simp only [enqueueForFact, bind_eq_ok_iff, Except.ok.injEq] at enqueued
  rcases enqueued with ⟨payload, built, rfl⟩
  rcases payload_of_build built with ⟨kind, payloadOf, _⟩
  rw [isLoaded.ofOrder, ← kind]
  apply Reaction.Writes.late
  constructor
  · exact payloadOf.trans isLoaded.ofOrder
  · rw [kind]
    rintro ⟨⟩

/-- An advance saves the order in its new status, and may owe a command after it. -/
theorem writes_of_advance (isLoaded : loaded.LoadedAs envelope.correlationId read)
    {apply : Order → Except OrderError Order} {commandAfter : Option SagaCommandKind}
    (selected : stepForStatus envelope.eventType loaded.props.status =
      some (.advance precondition apply commandAfter))
    (notCancelled : loaded.props.status ≠ .cancelled)
    (ran : runStep (.advance precondition apply commandAfter) loaded envelope
      sourceTopic = .ok work) :
    (Reaction.advanced (advancedStatus envelope.eventType loaded.props.status)
      commandAfter).Writes envelope sourceTopic read work.writes := by
  simp only [runStep, bind_eq_ok_iff, mapError_eq_ok_iff] at ran
  rcases ran with ⟨saved, applied, ran⟩
  have savedProps := advance_props selected applied
  have saves : Saves envelope read saved := by
    constructor
    · rw [savedProps]
      exact isLoaded.ofOrder
    · exact isLoaded.silent.advance selected applied
    · intro stays
      rw [isLoaded.status, savedProps, Option.some.injEq] at stays
      rw [domainEvents_of_advance selected applied stays.symm, isLoaded.noEvents]
  have tabulatedAs : some (advancedStatus envelope.eventType loaded.props.status,
      none) = some (saved.props.status, saved.props.cancellationReason) := by
    rw [savedProps]
    simp only [isLoaded.reasonless notCancelled]
  unfold Reaction.advanced
  change Reaction.Writes envelope sourceTopic _
    ⟨some (advancedStatus envelope.eventType loaded.props.status, none),
      commandAfter⟩ _
  rw [tabulatedAs]
  cases commandAfter with
  | none =>
      cases ran
      exact .saves saved saves
  | some kind =>
      simp only [enqueueForFact, bind_eq_ok_iff, Except.ok.injEq] at ran
      rcases ran with ⟨enqueue, ⟨payload, built, rfl⟩, rfl⟩
      rcases payload_of_build built with ⟨rfl, payloadOf, release⟩
      have savedOf := saves.ofOrder
      rw [savedOf]
      apply Reaction.Writes.savesOwing saved payload saves
      exact ⟨payloadOf.trans savedOf, savedOf ▸ release⟩

/-- A cancellation saves the order with the reason the fact maps to. -/
theorem writes_of_cancel (isLoaded : loaded.LoadedAs envelope.correlationId read)
    {mapped : Fact → Except HandlerError CancellationReason}
    {compensationSteps : Envelope → List CompensationStep}
    (ran : runStep (.cancel precondition mapped compensationSteps) loaded envelope
      sourceTopic = .ok work) :
    ∃ reason, mapped envelope.fact = .ok reason ∧
      (Reaction.cancelled reason).Writes envelope sourceTopic read work.writes := by
  simp only [runStep, bind_eq_ok_iff, mapError_eq_ok_iff, Except.ok.injEq] at ran
  rcases ran with ⟨reason, reasonMapped, saved, cancelled, rfl⟩
  rcases Order.cancel_eq_ok cancelled with ⟨cancellable, _, _, savedProps⟩
  refine ⟨reason, reasonMapped, ?_⟩
  have tabulatedAs : Reaction.cancelled reason =
      ⟨some (saved.props.status, saved.props.cancellationReason), none⟩ := by
    rw [savedProps]
    rfl
  rw [tabulatedAs]
  apply Reaction.Writes.saves saved
  constructor
  · rw [savedProps]
    exact isLoaded.ofOrder
  · exact isLoaded.silent.cancel cancelled
  · intro stays
    rw [isLoaded.status, savedProps, Option.some.injEq] at stays
    rw [stays] at cancellable
    cases cancellable

end Order.LoadedAs

/-- What a transaction loads is beside the version the database has. -/
theorem loadedAs_of_findById {db : OrdersDb} {order : OrderNumber} {loaded : Order}
    (keyed : db.Keyed) (read : db.findById order = .ok (some loaded)) :
    loaded.LoadedAs order (db.version order) := by
  rcases findById_eq_ok_some read with ⟨row, stored, rebuilt⟩
  rcases reconstitute_status rebuilt with ⟨sameReference, sameStatus, sameReason⟩
  rcases silent_of_reconstitute rebuilt with ⟨noEvents, reasonless⟩
  constructor
  · exact sameReference.trans (keyed _ _ stored)
  · simp [OrdersDb.version, OrdersDb.statusOf, stored, sameStatus]
  · exact noEvents
  · intro notCancelled
    exact sameReason.trans (reasonless (sameStatus ▸ notCancelled))

/-- Whatever the body of a fact's transaction writes is a reaction of the
table to the version it read. -/
theorem reaction_of_handleFact {db : OrdersDb} {envelope : Envelope}
    {sourceTopic : Topic} {work : FactWork} {sagaFact : SagaFact} (keyed : db.Keyed)
    (isFact : sagaFact? envelope.fact = some sagaFact)
    (handled : handleFact db envelope sourceTopic = .ok work) :
    ∃ reaction, react (db.version envelope.correlationId) sagaFact = some reaction ∧
      reaction.Writes envelope sourceTopic (db.version envelope.correlationId)
        work.writes := by
  simp only [handleFact, bind_eq_ok_iff, mapError_eq_ok_iff] at handled
  rcases handled with ⟨found, read, handled⟩
  cases found with
  | none =>
      cases handled
      refine ⟨.ignored, ?_, .ignored _⟩
      simp [react, OrdersDb.version, OrdersDb.statusOf, findById_eq_ok_none read]
  | some loaded =>
      have isLoaded := loadedAs_of_findById keyed read
      rcases findById_eq_ok_some read with ⟨row, stored, rebuilt⟩
      have late := (isLate_iff isFact stored (keyed _ _ stored)).trans
        (late_iff_of_reconstitute rebuilt).symm
      by_cases isLate : LateForAcceptedOperatorCancel db loaded.props envelope
      · simp only [if_pos isLate, bind_eq_ok_iff, Except.ok.injEq] at handled
        rcases handled with ⟨write, enqueued, rfl⟩
        refine ⟨⟨none, some .creditRelease⟩, ?_, isLoaded.writes_of_late enqueued⟩
        simp only [react, isLoaded.status, if_pos (late.mpr isLate)]
      · simp only [if_neg isLate] at handled
        have onTime : ¬ (db.version envelope.correlationId).IsLate sagaFact :=
          fun isLate' => isLate (late.mp isLate')
        simp only [react, isLoaded.status, if_neg onTime]
        cases selected : stepForStatus envelope.eventType loaded.props.status with
        | none =>
            simp only [selected, Except.ok.injEq] at handled
            subst handled
            exact ⟨.ignored, stepReaction_of_none isFact selected, .ignored _⟩
        | some step =>
            simp only [selected] at handled
            cases step with
            | skip =>
                have precondition := (mem_of_stepForStatus selected).2
                simp [SagaStep.precondition?] at precondition
            | advance precondition apply commandAfter =>
                rcases stepReaction_of_advance isFact selected with
                  ⟨notCancelled, tabulated⟩
                exact ⟨_, tabulated,
                  isLoaded.writes_of_advance selected notCancelled handled⟩
            | cancel precondition mapped compensationSteps =>
                rcases isLoaded.writes_of_cancel handled with
                  ⟨reason, reasonMapped, writes⟩
                exact ⟨_, stepReaction_of_cancel isFact selected reasonMapped, writes⟩

end OrderToCash.Orders
