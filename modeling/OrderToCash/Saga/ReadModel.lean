import OrderToCash.Projector.FinalStatus
import OrderToCash.Saga.Advance
import OrderToCash.Saga.Shipment

/-!
# The read model ends where the write model ends

Orders moves along a guarded table, the projector takes the highest ranked fact
and knows nothing of what Orders set aside.  Once both have consumed what was
emitted for an order, the document shows what Orders stores; it is ahead only
while an accepted cancel waits for its stock release and the order's credit has
been approved.
-/

namespace OrderToCash.Saga

open OrderToCash.Billing
open OrderToCash.Contracts
open OrderToCash.Fulfillment
open OrderToCash.Kernel
open OrderToCash.Log
open OrderToCash.Orders
open OrderToCash.Projector
open OrderToCash.Transition

namespace SagaSystem

/-- The facts of an order in the outboxes of the services. -/
def factsOf (system : SagaSystem) (order : OrderNumber) : List Fact :=
  (system.outbox .orders ++ system.outbox .fulfillment ++ system.outbox .billing).filter
    fun fact => fact.orderReference = order

/-- An accepted cancel of an order with its stock reserved waits for the stock
release, while the order's credit has been approved. -/
structure AwaitsRelease (system : SagaSystem) (order : OrderNumber) : Prop where
  reserved : system.orders.db.statusOf order = some .stockReserved
  accepted : system.orders.db.hasAcceptedOperatorCancel order = true
  approved : ∃ fact ∈ system.factsOf order, fact.eventType = .creditApproved
  unreleased : ∀ fact ∈ system.factsOf order, fact.eventType ≠ .stockReleased

theorem awaitsRelease_iff {system : SagaSystem} {order : OrderNumber} :
    system.AwaitsRelease order ↔
      system.orders.db.statusOf order = some .stockReserved ∧
        system.orders.db.hasAcceptedOperatorCancel order = true ∧
        (∃ fact ∈ system.factsOf order, fact.eventType = .creditApproved) ∧
        ∀ fact ∈ system.factsOf order, fact.eventType ≠ .stockReleased := by
  constructor
  · rintro ⟨reserved, accepted, approved, unreleased⟩
    exact ⟨reserved, accepted, approved, unreleased⟩
  · rintro ⟨reserved, accepted, approved, unreleased⟩
    exact ⟨reserved, accepted, approved, unreleased⟩

instance (system : SagaSystem) (order : OrderNumber) :
    Decidable (system.AwaitsRelease order) :=
  decidable_of_iff _ awaitsRelease_iff.symm

theorem mem_factsOf {system : SagaSystem} {order : OrderNumber} {fact : Fact} :
    fact ∈ system.factsOf order ↔
      (∃ topic, fact ∈ system.outbox topic) ∧ fact.orderReference = order := by
  simp only [factsOf, List.mem_filter, List.mem_append, decide_eq_true_eq,
    and_congr_left_iff]
  intro _
  constructor
  · rintro ((ofOrders | ofFulfillment) | ofBilling)
    · exact ⟨.orders, ofOrders⟩
    · exact ⟨.fulfillment, ofFulfillment⟩
    · exact ⟨.billing, ofBilling⟩
  · rintro ⟨topic, factMem⟩
    cases topic with
    | orders => exact Or.inl (Or.inl factMem)
    | fulfillment => exact Or.inl (Or.inr factMem)
    | billing => exact Or.inr factMem

end SagaSystem

variable {order : OrderNumber} {system : SagaSystem} {saga : OrderSaga}

/-! ## The facts of an order -/

/-- A fact that is settled wherever it is has been handled. -/
theorem Represents.handled_of_settled (represents : Represents order system saga)
    (settled : ∀ topic position, system.Settled order topic position) {fact : SagaFact}
    (emitted : saga.emitted fact) : saga.handled fact := by
  rcases emitted with waits | isHandled
  · have delivery := represents.orders.delivery fact.topic
    rcases (delivery.waiting_iff fact rfl).mp waits with
      ⟨position, ⟨entry, isEntry, reads⟩, unprocessed⟩
    rcases read_eq_some.mp reads with ⟨ofOrder, isFact⟩
    rcases settled fact.topic position entry isEntry ofOrder with skipped | isProcessed
    · rw [isSkipped_iff, isFact] at skipped
      cases skipped
    · exact absurd isProcessed unprocessed
  · exact isHandled

/-- A fact of the order that the saga sees was emitted. -/
theorem Represents.emitted_of_mem (represents : Represents order system saga)
    {fact : Fact} {sagaFact : SagaFact} (factMem : fact ∈ system.factsOf order)
    (isFact : sagaFact? fact = some sagaFact) : saga.emitted sagaFact := by
  rcases SagaSystem.mem_factsOf.mp factMem with ⟨⟨topic, inTopic⟩, ofOrder⟩
  have reads := read_eq_some.mpr ⟨ofOrder, isFact⟩
  rcases List.getElem?_of_mem inTopic with ⟨position, found⟩
  have ofTopic := (represents.orders.delivery topic).owned sagaFact position
    ⟨fact, found, reads⟩
  subst ofTopic
  exact (represents.orders.delivery.emitted_iff sagaFact).mpr ⟨fact, inTopic, reads⟩

/-- What was emitted is among the facts of the order. -/
theorem Represents.mem_of_emitted (represents : Represents order system saga)
    {sagaFact : SagaFact} (emitted : saga.emitted sagaFact) :
    ∃ fact ∈ system.factsOf order, sagaFact? fact = some sagaFact := by
  rcases (represents.emitted_iff sagaFact).mp emitted with
    ⟨fact, factMem, ofOrder, isFact⟩
  exact ⟨fact, SagaSystem.mem_factsOf.mpr ⟨⟨_, factMem⟩, ofOrder⟩, isFact⟩

/-- A fact of the order that the saga does not see was told by Orders. -/
theorem Orderly.announced_of_mem (orderly : Orderly order system saga) {fact : Fact}
    (factMem : fact ∈ system.factsOf order) {announcement : Announcement}
    (tells : announced? fact = some announcement) :
    announcement ∈ system.orders.db.announced order := by
  rcases SagaSystem.mem_factsOf.mp factMem with ⟨⟨topic, inTopic⟩, ofOrder⟩
  have unseen : sagaFact? fact = none := by
    cases fact <;> first | rfl | cases tells
  cases topic with
  | orders =>
      apply List.mem_filterMap.mpr
      exact ⟨fact, List.mem_filter.mpr ⟨inTopic, decide_eq_true ofOrder⟩, tells⟩
  | fulfillment =>
      exact absurd unseen (orderly.seen.stock fact
        (List.mem_filter.mpr ⟨inTopic, decide_eq_true ofOrder⟩))
  | billing =>
      exact absurd unseen (orderly.seen.credit fact
        (List.mem_filter.mpr ⟨inTopic, decide_eq_true ofOrder⟩))

/-- What Orders told of the order is among its facts. -/
theorem mem_of_announced {announcement : Announcement}
    (told : announcement ∈ system.orders.db.announced order) :
    ∃ fact ∈ system.factsOf order, announced? fact = some announcement := by
  rcases List.mem_filterMap.mp told with ⟨fact, selected, tells⟩
  rcases List.mem_filter.mp selected with ⟨factMem, ofOrder⟩
  exact ⟨fact, SagaSystem.mem_factsOf.mpr ⟨⟨.orders, factMem⟩, of_decide_eq_true ofOrder⟩,
    tells⟩

/-! ## The highest fact -/

/-- The rank a document of the status has. -/
def documentRank : OrderStatus → Nat
  | .placed => 1
  | .stockReserved => 2
  | .creditApproved => 3
  | .confirmed => 4
  | .despatched => 5
  | .invoiced => 6
  | .paid => 7
  | .completed => 98
  | .cancelled => 99

theorem rankOf_eq_documentRank {eventType : EventType} {status : OrderStatus}
    (proves : impliedStatusOf eventType = some status) :
    rankOf eventType = documentRank status := by
  cases eventType <;> cases proves <;> rfl

/-- The status a fact of the saga proves. -/
def provedBy : SagaFact → Option OrderStatus
  | .orderPlaced => some .placed
  | .stockReserved => some .stockReserved
  | .creditApproved => some .creditApproved
  | .orderDespatched => some .despatched
  | .invoiceIssued => some .invoiced
  | .paymentReceived => some .paid
  | _ => none

theorem impliedStatus_of_sagaFact {fact : Fact} {sagaFact : SagaFact}
    {status : OrderStatus} (isFact : sagaFact? fact = some sagaFact)
    (proves : provedBy sagaFact = some status) :
    impliedStatusOf fact.eventType = some status := by
  cases fact <;> cases isFact <;> cases proves <;> rfl

theorem impliedStatus_of_announced {fact : Fact} {status : OrderStatus}
    {reason : Option CancellationReason} (tells : announced? fact = some (status, reason)) :
    impliedStatusOf fact.eventType = some status := by
  cases fact <;> cases tells <;> rfl

/-- The status that the facts of an order prove. -/
def SagaSystem.provedStatus (system : SagaSystem) (order : OrderNumber)
    (status : OrderStatus) : OrderStatus :=
  if system.AwaitsRelease order then .creditApproved else status

/-- The status of an order that is not ahead of its facts. -/
theorem rank_le_of_reached {eventType : EventType} {proved status : OrderStatus}
    (proves : impliedStatusOf eventType = some proved)
    (reached : proved = status ∨ proved.rank < status.rank) :
    rankOf eventType ≤ documentRank status := by
  rw [rankOf_eq_documentRank proves]
  rcases reached with rfl | below
  · exact Nat.le_refl _
  · revert below
    cases proved <;> cases status <;> decide

section Settled

variable (orderly : Orderly order system saga) (advances : saga.Advances)
  (settled : ∀ topic position, system.Settled order topic position)
  {status : OrderStatus} (isStatus : saga.current.status = some status) {fact : Fact}
  (factMem : fact ∈ system.factsOf order)
include orderly advances settled isStatus factMem

/-- The order has reached what its facts prove, but for an approval that finds its
stock reserved. -/
theorem Orderly.reached_of_mem
    (notAwaiting : fact.eventType = .creditApproved → status ≠ .stockReserved)
    {proved : OrderStatus} (proves : impliedStatusOf fact.eventType = some proved) :
    proved = status ∨ proved.rank < status.rank := by
  have represents := orderly.represents
  have coherent := represents.coherent
  have notApproving := ((coherent.past _ coherent.current).standsFor _ isStatus).notApproving
  have emitted : ∀ sagaFact, sagaFact? fact = some sagaFact → saga.emitted sagaFact :=
    fun sagaFact isFact => represents.emitted_of_mem factMem isFact
  have handled : ∀ sagaFact, sagaFact? fact = some sagaFact → saga.handled sagaFact :=
    fun sagaFact isFact => represents.handled_of_settled settled (emitted sagaFact isFact)
  have told : ∀ reason, announced? fact = some (proved, reason) →
      proved = status ∨ proved.rank < status.rank := by
    intro reason tells
    have announced := orderly.announced_of_mem factMem tells
    rw [represents.orders.tables.current] at isStatus
    rcases orderly.told.reached proved reason announced with ⟨current, isCurrent, here⟩
    rw [isStatus, Option.some.injEq] at isCurrent
    subst isCurrent
    exact here.imp_left fun same => same.1.symm
  have reserved : saga.handled .stockReserved → status ≠ .placed := by
    intro isHandled
    simpa [isStatus] using advances.reserved isHandled
  cases fact <;> cases proves
  case orderPlaced => cases status <;> decide
  case orderConfirmed | orderCompleted | orderCancelled => exact told _ rfl
  case stockReserved =>
    have notPlaced := reserved (handled _ rfl)
    revert notPlaced
    cases status <;> decide
  case creditApproved =>
    have notPlaced := reserved (coherent.reserved_of_approved (emitted _ rfl))
    have notReserved := notAwaiting rfl
    revert notPlaced notReserved
    cases status <;> decide
  case orderDespatched =>
    have owed := advances.despatching (coherent.owed_of_despatched (emitted _ rfl))
    have notConfirmed := advances.despatched (handled _ rfl)
    rw [isStatus] at owed notConfirmed
    revert notApproving owed notConfirmed
    cases status <;> decide
  case invoiceIssued =>
    have invoiced := advances.invoiced (handled _ rfl)
    rw [isStatus] at invoiced
    rcases invoiced with ⟨⟨⟩⟩ | ⟨⟨⟩⟩ | ⟨⟨⟩⟩ <;> decide
  case paymentReceived =>
    have paid := advances.paid (handled _ rfl)
    rw [isStatus] at paid
    rcases paid with ⟨⟨⟩⟩ | ⟨⟨⟩⟩ <;> decide

/-- An approval that finds the stock reserved awaits the release of it. -/
theorem Orderly.awaits_of_mem (approved : fact.eventType = .creditApproved)
    (isReserved : status = .stockReserved) : system.AwaitsRelease order := by
  subst isReserved
  have represents := orderly.represents
  have coherent := represents.coherent
  have handledApproval : saga.handled .creditApproved := by
    apply represents.handled_of_settled settled
    apply represents.emitted_of_mem factMem
    cases fact <;> first | rfl | cases approved
  have current := represents.orders.tables.current
  constructor
  · exact (congrArg Version.status current).symm.trans isStatus
  · exact (congrArg Version.accepted current).symm.trans
      (advances.approved handledApproval isStatus)
  · exact ⟨fact, factMem, approved⟩
  · intro other otherMem isReleased
    cases other <;> cases isReleased
    have emitted := represents.emitted_of_mem otherMem rfl
    exact advances.released _ (represents.handled_of_settled settled emitted) isStatus

/-- No fact of the order is ranked above what the document is to show. -/
theorem Orderly.rank_le :
    rankOf fact.eventType ≤ documentRank (system.provedStatus order status) := by
  cases proves : impliedStatusOf fact.eventType with
  | none =>
      rw [rankOf_eq_zero_of_impliedStatusOf proves]
      exact Nat.zero_le _
  | some proved =>
      unfold SagaSystem.provedStatus
      by_cases awaits : system.AwaitsRelease order
      · rw [if_pos awaits]
        by_cases approved : fact.eventType = .creditApproved
        · rw [approved]
          exact Nat.le_refl _
        · have below := rank_le_of_reached proves
            (orderly.reached_of_mem advances settled isStatus factMem
              (fun isApproved => absurd isApproved approved) proves)
          have current := congrArg Version.status orderly.represents.orders.tables.current
          have isReserved := (isStatus.symm.trans current).trans awaits.reserved
          cases isReserved
          exact Nat.le_trans below (by decide)
      · rw [if_neg awaits]
        apply rank_le_of_reached proves
        apply orderly.reached_of_mem advances settled isStatus factMem _ proves
        intro approved isReserved
        exact awaits (orderly.awaits_of_mem advances settled isStatus factMem approved
          isReserved)

end Settled

/-- Some fact of the order proves what the document is to show. -/
theorem Orderly.proved (orderly : Orderly order system saga) {status : OrderStatus}
    (isStatus : saga.current.status = some status) :
    ∃ fact ∈ system.factsOf order,
      impliedStatusOf fact.eventType = some (system.provedStatus order status) := by
  have represents := orderly.represents
  have coherent := represents.coherent
  have current := represents.orders.tables.current
  have standsFor := (coherent.past _ coherent.current).standsFor _ isStatus
  have ofHandled : ∀ sagaFact, saga.handled sagaFact →
      ∃ fact ∈ system.factsOf order, sagaFact? fact = some sagaFact :=
    fun sagaFact isHandled => represents.mem_of_emitted (Or.inr isHandled)
  have ofTold : ∀ announcement ∈ announcementOf saga.current.reason status,
      ∃ fact ∈ system.factsOf order, announced? fact = some announcement := by
    intro announcement announcementMem
    apply mem_of_announced
    rw [current] at announcementMem isStatus
    exact orderly.told.told status isStatus announcement announcementMem
  unfold SagaSystem.provedStatus
  by_cases awaits : system.AwaitsRelease order
  · rw [if_pos awaits]
    rcases awaits.approved with ⟨fact, factMem, approved⟩
    exact ⟨fact, factMem, by rw [approved]; rfl⟩
  · rw [if_neg awaits]
    cases status with
    | placed =>
        have placed := coherent.emissions.placed.mpr (by simp [isStatus])
        rcases represents.mem_of_emitted placed with ⟨fact, factMem, isFact⟩
        exact ⟨fact, factMem, impliedStatus_of_sagaFact isFact rfl⟩
    | stockReserved =>
        rcases ofHandled _ (standsFor.reserved (by decide) (by decide)) with
          ⟨fact, factMem, isFact⟩
        exact ⟨fact, factMem, impliedStatus_of_sagaFact isFact rfl⟩
    | creditApproved => exact absurd rfl standsFor.notApproving
    | despatched =>
        rcases ofHandled _ (standsFor.despatched (by decide) (by decide)) with
          ⟨fact, factMem, isFact⟩
        exact ⟨fact, factMem, impliedStatus_of_sagaFact isFact rfl⟩
    | invoiced =>
        rcases ofHandled _ (standsFor.invoiced (by decide) (by decide)) with
          ⟨fact, factMem, isFact⟩
        exact ⟨fact, factMem, impliedStatus_of_sagaFact isFact rfl⟩
    | paid =>
        rcases ofHandled _ (standsFor.paid (by decide) (by decide)) with
          ⟨fact, factMem, isFact⟩
        exact ⟨fact, factMem, impliedStatus_of_sagaFact isFact rfl⟩
    | confirmed | completed | cancelled =>
        rcases ofTold _ List.mem_cons_self with ⟨fact, factMem, tells⟩
        exact ⟨fact, factMem, impliedStatus_of_announced tells⟩

/-- A cancellation among the facts gives the order's reason, and only it does. -/
theorem Orderly.reason_iff (orderly : Orderly order system saga)
    (reason : CancellationReason) :
    saga.current.reason = some reason ↔ ∃ fact ∈ system.factsOf order,
      (fillOf fact).cancellationReason = some reason := by
  have coherent := orderly.represents.coherent
  have current := orderly.represents.orders.tables.current
  have isTrue := coherent.past _ coherent.current
  constructor
  · intro isReason
    have isCancelled : saga.current.status = some .cancelled := by
      cases isStatus : saga.current.status with
      | none =>
          rw [isTrue.unplaced isStatus] at isReason
          cases isReason
      | some status =>
          by_contra notCancelled
          have reasonless := (isTrue.standsFor _ isStatus).reasonless
            (fun same => notCancelled (congrArg some same))
          rw [reasonless] at isReason
          cases isReason
    rw [current] at isCancelled isReason
    have told := orderly.told.told .cancelled isCancelled _ List.mem_cons_self
    rw [isReason] at told
    rcases mem_of_announced told with ⟨fact, factMem, tells⟩
    refine ⟨fact, factMem, ?_⟩
    cases fact <;> cases tells
    rfl
  · rintro ⟨fact, factMem, fills⟩
    cases fact <;> cases fills
    have told := orderly.announced_of_mem factMem rfl
    rcases orderly.told.reached _ _ told with ⟨status, _, ⟨_, same⟩ | below⟩
    · rw [current]
      exact same
    · exact absurd below (by cases status <;> decide)

/-! ## The document -/

/-- Once both have consumed what was emitted for an order, the document shows the
order's status and cancellation reason, or its approval while a cancel awaits the
release of the stock. -/
theorem document_ends_with_order {stock : StockCatalogue}
    {credits : CreditCatalogue} {row : OrderProps} {facts : List FactEnvelope}
    {evaluate : Evaluation} {projector : ProjectorSystem}
    (reached : Reachable SagaSystem.step (SagaSystem.Orderly order)
      (SagaSystem.initial stock credits) system)
    (stored : system.orders.db.orders order = some row)
    (settled : ∀ topic position, system.Settled order topic position)
    (published : (facts.map FactEnvelope.fact).Perm (system.factsOf order))
    (distinct : (facts.map FactEnvelope.eventId).Nodup)
    (delivered : Reachable (ProjectorSystem.step evaluate)
      (ProjectorSystem.Delivers facts) ProjectorSystem.initial projector)
    (complete : ProjectorSystem.Complete facts projector) :
    ∃ document, projector.document = some document ∧
      document.status = system.provedStatus order row.status ∧
        document.cancellationReason = row.cancellationReason := by
  rcases exists_orderly reached with ⟨saga, orderly, path⟩
  have advances := (OrderSaga.advances_of_reached path).2
  have current := orderly.represents.orders.tables.current
  have isStatus : saga.current.status = some row.status := by
    simp [current, OrdersDb.version, OrdersDb.statusOf, stored]
  have isReason : saga.current.reason = row.cancellationReason := by
    simp [current, OrdersDb.version, stored]
  have known : ∀ envelope ∈ facts, envelope.fact ∈ system.factsOf order :=
    fun envelope envelopeMem => published.mem_iff.mp (List.mem_map_of_mem envelopeMem)
  rcases orderly.proved isStatus with ⟨fact, factMem, proves⟩
  rcases List.mem_map.mp (published.mem_iff.mpr factMem) with ⟨top, topMem, rfl⟩
  apply ProjectorSystem.document_of_complete distinct delivered complete topMem proves
  · intro envelope envelopeMem
    have isTop : rankOf top.eventType = documentRank (system.provedStatus order row.status) :=
      rankOf_eq_documentRank proves
    rw [isTop]
    exact orderly.rank_le advances settled isStatus (known envelope envelopeMem)
  · intro given
    rw [← isReason, orderly.reason_iff]
    constructor
    · rintro ⟨fact, factMem, fills⟩
      rcases List.mem_map.mp (published.mem_iff.mpr factMem) with ⟨envelope, envelopeMem, rfl⟩
      exact ⟨envelope, envelopeMem, fills⟩
    · rintro ⟨envelope, envelopeMem, fills⟩
      exact ⟨envelope.fact, known envelope envelopeMem, fills⟩

/-! ## An approval that comes after a cancel -/

/-- No command of a run is parked. -/
def SagaSystem.NoDeadLetter : Guard SagaSystem SagaAction
  | _, .orders (.park _ _ _ _) => False
  | _, .orders (.claimDeadLetter _) => False
  | _, .orders (.beginFirstPark _) => False
  | _, _ => True

instance (system : SagaSystem) (action : SagaAction) :
    Decidable (SagaSystem.NoDeadLetter system action) := by
  unfold SagaSystem.NoDeadLetter
  split <;> infer_instance

/-- One verdict at most was given on the order's stock, and one on its credit. -/
def SagaSystem.OneVerdict (system : SagaSystem) (order : OrderNumber) : Prop :=
  (system.factsOf order).countP (fun fact =>
      fact.eventType = .stockReserved ∨ fact.eventType = .stockRejected) ≤ 1 ∧
    (system.factsOf order).countP (fun fact =>
      fact.eventType = .creditApproved ∨ fact.eventType = .creditRejected) ≤ 1

instance (system : SagaSystem) (order : OrderNumber) :
    Decidable (system.OneVerdict order) :=
  inferInstanceAs (Decidable (_ ∧ _))

/-- Nothing beyond the end of an outbox awaits handling. -/
theorem settled_of_published {system : SagaSystem} {order : OrderNumber}
    (settled : ∀ topic ∈ [Topic.orders, .fulfillment, .billing],
      ∀ position < (system.outbox topic).length, system.Settled order topic position)
    (topic : Topic) (position : Nat) : system.Settled order topic position := by
  intro fact isFact ofOrder
  apply settled topic _ position (List.getElem?_eq_some_iff.mp isFact).1 fact isFact ofOrder
  cases topic <;> simp

/-- The facts under names of their own. -/
def envelopesOf (facts : List Fact) : List FactEnvelope :=
  facts.mapIdx fun index fact =>
    { eventId := String.ofList (List.replicate index 'e')
      causationId := ""
      occurredAt := ""
      fact := fact
      placement := ⟨"", "", ""⟩ }

theorem map_fact_envelopesOf (facts : List Fact) :
    (envelopesOf facts).map FactEnvelope.fact = facts := by
  apply List.ext_getElem?
  intro index
  simp only [envelopesOf, List.getElem?_map, List.getElem?_mapIdx, Option.map_map]
  exact Option.map_id'

/-- Every fact is delivered and applied, one after the other. -/
def projectEach (facts : List FactEnvelope) : List ProjectorAction :=
  (facts.mapIdx fun index envelope =>
    [.deliver envelope, .matchPlaceholder index] ++
      (if index = 0 then [.insertPlaceholder index] else []) ++
        [.update index]).flatten

/-- A run of the services over one order, cancelled by an operator. -/
def orderlyRun (choices : List (SagaSystem → SagaAction)) : Option SagaSystem :=
  execute (choosing SagaSystem.step)
    (fun system choose =>
      decide (SagaSystem.Orderly ⟨1⟩ system (choose system) ∧
        SagaSystem.NoDeadLetter system (choose system)))
    (SagaSystem.initial FulfillmentSystem.twoProducts tenThousandLimit) choices

/-- The projector's run over what a run has published. -/
def projectionOf (system : SagaSystem) : Option ProjectorSystem :=
  execute (ProjectorSystem.step fun _ text => text)
    (fun projector action =>
      decide (ProjectorSystem.Delivers (envelopesOf (system.factsOf ⟨1⟩)) projector action))
    ProjectorSystem.initial (projectEach (envelopesOf (system.factsOf ⟨1⟩)))

/-- The cancel of a reserved order is accepted before its credit is approved. -/
def cancelBeforeApproval : List (SagaSystem → SagaAction) :=
  [ fun _ => .orders (.place 0 singleLineOrder (singleLineForm 0)),
    SagaSystem.deliver .orders 0,
    fun _ => .orders (.commit 0),
    SagaSystem.dispatch ⟨1⟩ .stockReserve,
    fun _ => .fulfillment (.run 0),
    SagaSystem.deliver .fulfillment 0,
    fun _ => .orders (.commit 0),
    SagaSystem.dispatch ⟨1⟩ .creditHold,
    fun _ => .orders (.readForCancel ⟨1⟩ none),
    fun _ => .orders (.actOnCancel 0),
    fun _ => .billing (.run 0 false),
    SagaSystem.deliver .billing 0,
    fun _ => .orders (.commit 0) ]

/-- The cancel goes on and its stock is released. -/
def releaseAfterApproval : List (SagaSystem → SagaAction) :=
  cancelBeforeApproval ++
    [ SagaSystem.dispatch ⟨1⟩ .stockRelease,
      fun _ => .fulfillment (.run 0),
      SagaSystem.deliver .fulfillment 1,
      fun _ => .orders (.commit 0) ]

/-- Orders and the projector have consumed what was published. -/
structure ConsumedBy (system : SagaSystem) (projector : ProjectorSystem) : Prop where
  settled : ∀ topic ∈ [Topic.orders, .fulfillment, .billing],
    ∀ position < (system.outbox topic).length, system.Settled ⟨1⟩ topic position
  distinct : ((envelopesOf (system.factsOf ⟨1⟩)).map FactEnvelope.eventId).Nodup
  complete : ProjectorSystem.Complete (envelopesOf (system.factsOf ⟨1⟩)) projector

instance (system : SagaSystem) (projector : ProjectorSystem) :
    Decidable (ConsumedBy system projector) :=
  decidable_of_iff (_ ∧ _ ∧ _)
    ⟨fun ⟨settled, distinct, complete⟩ => ⟨settled, distinct, complete⟩,
      fun ⟨settled, distinct, complete⟩ => ⟨settled, distinct, complete⟩⟩

/-- A run that was computed, with the projector's run over what it published. -/
theorem exists_consumed {choices : List (SagaSystem → SagaAction)}
    {shows : SagaSystem → ProjectorSystem → Bool}
    (ran : ((orderlyRun choices).any fun system => (projectionOf system).any fun projector =>
      decide (ConsumedBy system projector) && shows system projector) = true) :
    ∃ system projector,
      Reachable SagaSystem.step
        (fun state action => SagaSystem.Orderly ⟨1⟩ state action ∧
          SagaSystem.NoDeadLetter state action)
        (SagaSystem.initial FulfillmentSystem.twoProducts tenThousandLimit) system ∧
      Reachable (ProjectorSystem.step fun _ text => text)
        (ProjectorSystem.Delivers (envelopesOf (system.factsOf ⟨1⟩)))
        ProjectorSystem.initial projector ∧
      ConsumedBy system projector ∧ shows system projector = true := by
  rcases (Option.any_eq_true _ _).mp ran with ⟨system, executed, projects⟩
  rcases (Option.any_eq_true _ _).mp projects with ⟨projector, projected, checked⟩
  rw [Bool.and_eq_true, decide_eq_true_eq] at checked
  exact ⟨system, projector, reachable_of_choices executed, reachable_of_execute projected,
    checked⟩

theorem document_ends_cancelled :
    ∃ (system : SagaSystem) (projector : ProjectorSystem) (row : OrderProps)
        (document : OrderTimelineDocument),
      Reachable SagaSystem.step (SagaSystem.Orderly ⟨1⟩)
        (SagaSystem.initial FulfillmentSystem.twoProducts tenThousandLimit) system ∧
      system.orders.db.orders ⟨1⟩ = some row ∧ row.status = .cancelled ∧
      projector.document = some document ∧
      document.status = system.provedStatus ⟨1⟩ row.status ∧
        document.cancellationReason = row.cancellationReason := by
  have ran : ((orderlyRun releaseAfterApproval).any fun system =>
      (projectionOf system).any fun projector =>
        decide (ConsumedBy system projector) &&
          decide (system.orders.db.statusOf ⟨1⟩ = some .cancelled)) = true := by
    decide +kernel
  rcases exists_consumed ran with ⟨system, projector, reached, delivered, consumed, shows⟩
  rcases Option.map_eq_some_iff.mp (of_decide_eq_true shows) with ⟨row, stored, isCancelled⟩
  have orderly := reached.weaken fun _ _ guarded => guarded.1
  rcases document_ends_with_order orderly stored (settled_of_published consumed.settled)
    (by rw [map_fact_envelopesOf]) consumed.distinct delivered consumed.complete with
    ⟨document, isDocument, status, reason⟩
  exact ⟨system, projector, row, document, orderly, stored, isCancelled, isDocument, status,
    reason⟩

/-- With its cancel accepted and its stock not released yet, an order is still
`stock_reserved` where its document says `credit_approved`. -/
theorem document_not_always_of_order :
    ¬ ∀ (order : OrderNumber) (stock : StockCatalogue) (credits : CreditCatalogue)
        (system : SagaSystem) (row : OrderProps) (facts : List FactEnvelope)
        (evaluate : Evaluation) (projector : ProjectorSystem),
      Reachable SagaSystem.step
        (fun state action => SagaSystem.Orderly order state action ∧
          SagaSystem.NoDeadLetter state action)
        (SagaSystem.initial stock credits) system →
      system.OneVerdict order →
      system.orders.db.orders order = some row →
      (∀ topic position, system.Settled order topic position) →
      (facts.map FactEnvelope.fact).Perm (system.factsOf order) →
      (facts.map FactEnvelope.eventId).Nodup →
      Reachable (ProjectorSystem.step evaluate) (ProjectorSystem.Delivers facts)
        ProjectorSystem.initial projector →
      ProjectorSystem.Complete facts projector →
      ∃ document, projector.document = some document ∧ document.status = row.status ∧
        document.cancellationReason = row.cancellationReason := by
  intro claimed
  have ran : ((orderlyRun cancelBeforeApproval).any fun system =>
      (projectionOf system).any fun projector =>
        decide (ConsumedBy system projector) &&
          decide (system.OneVerdict ⟨1⟩ ∧
            system.orders.db.statusOf ⟨1⟩ = some .stockReserved ∧
            projector.document.map OrderTimelineDocument.status =
              some .creditApproved)) = true := by
    decide +kernel
  rcases exists_consumed ran with ⟨system, projector, reached, delivered, consumed, shows⟩
  rcases of_decide_eq_true shows with ⟨oneVerdict, isReserved, isApproved⟩
  rcases Option.map_eq_some_iff.mp isReserved with ⟨row, stored, rowStatus⟩
  rcases claimed ⟨1⟩ _ _ system row _ _ projector reached oneVerdict stored
    (settled_of_published consumed.settled) (by rw [map_fact_envelopesOf])
    consumed.distinct delivered consumed.complete with ⟨document, isDocument, status, _⟩
  rw [isDocument, Option.map_some, Option.some.injEq, status, rowStatus] at isApproved
  cases isApproved

end OrderToCash.Saga
