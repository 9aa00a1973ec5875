import OrderToCash.Checked.Mutation
import OrderToCash.Orders.AggregateInvariant

/-!
# Operations that fail

The operations of an order as they write it: the properties and the pending
events are assigned one after the other, and what builds an event may throw.
The line mutators assign last; the transitions assign the status first and
build the event of the edge from what they have assigned.
-/

namespace OrderToCash.Orders

open OrderToCash.Checked
open OrderToCash.Contracts
open OrderToCash.Kernel

/-! ## Envelopes -/

/-- What is given as an instant: nothing, something that is no `Date` but may
render itself, or a `Date`, whose time may be `NaN`. -/
inductive InstantInput
  | absent
  | notADate (rendersItself : Bool)
  | date (time : Option Int)
deriving DecidableEq, Repr

/-- Everything an operation can throw. -/
inductive OrderThrow
  | order (error : OrderError)
  | typeError
  | invalidTime
  | invalidDomainEventEnvelope (reason : String)
deriving DecidableEq, Repr

/-- `toISOString`; its text is not kept with a fact. -/
def InstantInput.toISOString : InstantInput → Except OrderThrow Unit
  | .absent => .error .typeError
  | .notADate rendersItself =>
      if rendersItself then .ok () else .error .typeError
  | .date none => .error .invalidTime
  | .date (some _) => .ok ()

/-- Time and causation in, nothing pulled. -/
structure TransitionContext where
  occurredAt : InstantInput
  causationId : Option UniqueId
deriving DecidableEq, Repr

/-- An envelope before it is validated; an absent field is `none`, and so is a
payload without keys. -/
structure DomainEventEnvelope where
  eventId : Option UniqueId
  eventType : String
  aggregateId : Option OrderNumber
  correlationId : Option OrderNumber
  causationId : Option UniqueId
  occurredAt : InstantInput
  payload : Option Fact
deriving DecidableEq, Repr

/-- A letter and then characters of a kind. -/
def isSegment (follows : Char → Bool) : List Char → Bool
  | [] => false
  | first :: rest => first.isAlpha && rest.all follows

/-- `v` and a number without a leading zero. -/
def isVersion : List Char → Bool
  | 'v' :: first :: rest => first.isDigit && first != '0' && rest.all Char.isDigit
  | _ => false

/-- `EVENT_TYPE_PATTERN`. -/
def isEventType (text : String) : Bool :=
  match text.toList.splitOn '.' with
  | [aggregate, fact, version] =>
      isSegment Char.isAlphanum aggregate &&
        isSegment (fun char => char.isAlphanum || char == '_') fact &&
          isVersion version
  | _ => false

def assertValidDomainEventEnvelope (envelope : DomainEventEnvelope) :
    Except OrderThrow Unit :=
  if envelope.eventId = none then
    .error (.invalidDomainEventEnvelope "eventId is absent")
  else if envelope.eventType = "" then
    .error (.invalidDomainEventEnvelope "eventType is absent or empty")
  else if isEventType envelope.eventType = false then
    .error (.invalidDomainEventEnvelope
      ("eventType \"" ++ envelope.eventType ++
        "\" does not match the pattern <aggregate>.<fact>.v<n>"))
  else if envelope.aggregateId = none then
    .error (.invalidDomainEventEnvelope "aggregateId is absent")
  else if envelope.correlationId = none then
    .error (.invalidDomainEventEnvelope "correlationId is absent")
  else if envelope.causationId = none then
    .error (.invalidDomainEventEnvelope "causationId is absent")
  else
    match envelope.occurredAt with
    | .date (some _) =>
        if envelope.payload = none then
          .error (.invalidDomainEventEnvelope "payload is absent, null or empty")
        else
          .ok ()
    | _ =>
        .error (.invalidDomainEventEnvelope
          "occurredAt is absent or not a valid instant")

def createDomainEvent (envelope : DomainEventEnvelope) :
    Except OrderThrow DomainEventEnvelope := do
  assertValidDomainEventEnvelope envelope
  .ok envelope

/-- The event builders of `order-events.ts`: the instant is rendered into the
payload, the rest of the payload is built and the envelope is validated. -/
def buildOrderEvent (newId : UniqueId) (eventType : EventType)
    (payload : OrderProps → Except OrderThrow Fact) (props : OrderProps)
    (ctx : TransitionContext) : Except OrderThrow DomainEventEnvelope := do
  ctx.occurredAt.toISOString
  let fact ← payload props
  createDomainEvent
    { eventId := some newId
      eventType := eventType.wireName
      aggregateId := some props.orderReference
      correlationId := some props.orderReference
      causationId := ctx.causationId
      occurredAt := ctx.occurredAt
      payload := some fact }

def buildOrderConfirmedEvent (newId : UniqueId) :
    OrderProps → TransitionContext → Except OrderThrow DomainEventEnvelope :=
  buildOrderEvent newId .orderConfirmed fun props =>
    .ok (orderConfirmedEvent props)

def buildOrderCompletedEvent (newId : UniqueId) :
    OrderProps → TransitionContext → Except OrderThrow DomainEventEnvelope :=
  buildOrderEvent newId .orderCompleted fun props =>
    .ok (orderCompletedEvent props)

/-- The steps are spread into the payload; what cannot be spread is `none`. -/
def buildOrderCancelledEvent (newId : UniqueId) (reason : CancellationReason)
    (compensationSteps : Option (List CompensationStep)) :
    OrderProps → TransitionContext → Except OrderThrow DomainEventEnvelope :=
  buildOrderEvent newId .orderCancelled fun props =>
    match compensationSteps with
    | none => .error .typeError
    | some steps => .ok (orderCancelledEvent reason steps props)

def buildOrderSagaFailedEvent (newId : UniqueId) (input : SagaFailureInput) :
    OrderProps → TransitionContext → Except OrderThrow DomainEventEnvelope :=
  buildOrderEvent newId .orderSagaFailed fun props =>
    .ok (orderSagaFailedEvent input props)

/-! ## The operations -/

/-- An order in memory, with the envelopes of its pending events. -/
structure LiveOrder where
  props : OrderProps
  domainEvents : List DomainEventEnvelope
deriving DecidableEq, Repr

/-- The order with the facts its pending events carry. -/
def LiveOrder.toOrder (order : LiveOrder) : Order :=
  ⟨order.props, order.domainEvents.filterMap DomainEventEnvelope.payload⟩

abbrev OrderM := EStateM OrderThrow LiveOrder

namespace LiveOrder

/-- Run a check of the domain. -/
def checked {α : Type} (computation : Except OrderError α) : OrderM α :=
  ofExcept (computation.mapError .order)

def assignLines (lines : List OrderLine) (totals : OrderTotals)
    (order : LiveOrder) : LiveOrder :=
  { order with
    props :=
      { order.props with
        lines := lines
        initialAmount := totals.initialAmount
        initialDiscount := totals.initialDiscount
        totalAmount := totals.totalAmount } }

def assignStatus (target : OrderStatus) (reason : Option CancellationReason)
    (order : LiveOrder) : LiveOrder :=
  { order with
    props :=
      { order.props with
        status := target
        cancellationReason := reason <|> order.props.cancellationReason } }

def addDomainEvent (event : DomainEventEnvelope) (order : LiveOrder) :
    LiveOrder :=
  { order with domainEvents := order.domainEvents ++ [event] }

/-- Derive the totals of the candidate lines, then assign both. -/
def replaceLines (lines : List OrderLine) : OrderM Unit := do
  let order ← get
  let totals ← checked
    (computeOrderTotals order.props.orderReference order.props.currency lines)
  modify (assignLines lines totals)

def addLine (newId : UniqueId) (input : PlaceOrderLineInput) : OrderM Unit := do
  let order ← get
  checked order.toOrder.assertLinesMutable
  checked
    (assertLineCurrencies order.props.orderReference order.props.currency [input])
  replaceLines
    (order.props.lines ++
      [{ id := newId
         productCode := input.productCode
         description := input.description
         quantity := input.quantity
         unitPrice := input.unitPrice
         lineDiscount := input.lineDiscount }])

def removeLine (lineId : UniqueId) : OrderM Unit := do
  let order ← get
  checked order.toOrder.assertLinesMutable
  if order.props.lines.any (fun line => line.id = lineId) = false then
    throw (.order (.lineNotFound order.props.orderReference lineId))
  else
    let candidateLines :=
      order.props.lines.filter fun line => ¬ line.id = lineId
    if candidateLines = [] then
      throw (.order (.hasNoLines order.props.orderReference))
    else
      replaceLines candidateLines

def changeLineQuantity (lineId : UniqueId) (quantity : Quantity) :
    OrderM Unit := do
  let order ← get
  checked order.toOrder.assertLinesMutable
  if order.props.lines.find? (fun line => line.id = lineId) = none then
    throw (.order (.lineNotFound order.props.orderReference lineId))
  else
    replaceLines
      (order.props.lines.map fun line =>
        if line.id = lineId then line.withQuantity quantity else line)

/-- The funnel: the edge is looked up, the status and the patch are assigned,
and only then is the event of the edge built. -/
def transitionTo (target : OrderStatus) (ctx : TransitionContext)
    (reason : Option CancellationReason)
    (buildEvent : Option
      (OrderProps → TransitionContext → Except OrderThrow DomainEventEnvelope)) :
    OrderM Unit := do
  let order ← get
  match findTransition order.props.status target with
  | none =>
      throw (.order (.transitionNotAllowed order.props.orderReference
        order.props.status target))
  | some transition => do
      modify (assignStatus target reason)
      match transition.emits, buildEvent with
      | some _, some build => do
          let moved ← get
          let event ← ofExcept (build moved.props ctx)
          modify (addDomainEvent event)
      | _, _ => pure ()

def cancel (newId : UniqueId) (reason : Option String) (ctx : TransitionContext)
    (compensationSteps : Option (List CompensationStep)) : OrderM Unit := do
  let order ← get
  match reason with
  | none => throw (.order (.reasonRequired order.props.orderReference))
  | some text =>
      match cancellationReasonOf text with
      | none => throw (.order (.reasonInvalid order.props.orderReference text))
      | some known =>
          if findTransition order.props.status .cancelled = none then
            throw (.order (.transitionNotAllowed order.props.orderReference
              order.props.status .cancelled))
          else if known = .stockRejected ∧ order.props.status ≠ .placed then
            throw (.order (.reasonNotApplicable order.props.orderReference
              order.props.status known))
          else if known = .creditRejected ∧
              order.props.status ≠ .stockReserved then
            throw (.order (.reasonNotApplicable order.props.orderReference
              order.props.status known))
          else
            transitionTo .cancelled ctx (some known)
              (some (buildOrderCancelledEvent newId known compensationSteps))

/-- The event is built before it is added. -/
def recordSagaFailure (newId : UniqueId) (input : SagaFailureInput)
    (ctx : TransitionContext) : OrderM Unit := do
  let order ← get
  let event ← ofExcept (buildOrderSagaFailedEvent newId input order.props ctx)
  modify (addDomainEvent event)

end LiveOrder

/-- The public operations with everything they are given. -/
inductive OrderCall
  | addLine (newId : UniqueId) (input : PlaceOrderLineInput)
  | removeLine (lineId : UniqueId)
  | changeLineQuantity (lineId : UniqueId) (quantity : Quantity)
  | markStockReserved (ctx : TransitionContext)
  | approveCredit (ctx : TransitionContext)
  | confirm (ctx : TransitionContext)
  | markDespatched (ctx : TransitionContext)
  | markInvoiced (ctx : TransitionContext)
  | markPaid (ctx : TransitionContext)
  | complete (ctx : TransitionContext)
  | cancel (reason : Option String) (ctx : TransitionContext)
      (compensationSteps : Option (List CompensationStep))
  | recordSagaFailure (input : SagaFailureInput) (ctx : TransitionContext)
deriving DecidableEq, Repr

/-- Run an operation; `newId` is the identifier an event it builds is given. -/
def OrderCall.run (newId : UniqueId) : OrderCall → OrderM Unit
  | .addLine lineId input => LiveOrder.addLine lineId input
  | .removeLine lineId => LiveOrder.removeLine lineId
  | .changeLineQuantity lineId quantity =>
      LiveOrder.changeLineQuantity lineId quantity
  | .markStockReserved ctx => LiveOrder.transitionTo .stockReserved ctx none none
  | .approveCredit ctx => LiveOrder.transitionTo .creditApproved ctx none none
  | .confirm ctx =>
      LiveOrder.transitionTo .confirmed ctx none
        (some (buildOrderConfirmedEvent newId))
  | .markDespatched ctx => LiveOrder.transitionTo .despatched ctx none none
  | .markInvoiced ctx => LiveOrder.transitionTo .invoiced ctx none none
  | .markPaid ctx => LiveOrder.transitionTo .paid ctx none none
  | .complete ctx =>
      LiveOrder.transitionTo .completed ctx none
        (some (buildOrderCompletedEvent newId))
  | .cancel reason ctx compensationSteps =>
      LiveOrder.cancel newId reason ctx compensationSteps
  | .recordSagaFailure input ctx => LiveOrder.recordSagaFailure newId input ctx

/-! ## What the builders accept -/

/-- The context has an instant and a cause. -/
structure TransitionContext.Valid (ctx : TransitionContext) : Prop where
  occurredAt : ∃ time, ctx.occurredAt = .date (some time)
  causationId : ctx.causationId.isSome

/-- Every wire name is an event type. -/
theorem isEventType_wireName (eventType : EventType) :
    eventType.wireName ≠ "" ∧ isEventType eventType.wireName = true := by
  cases eventType <;> decide

/-- An envelope with its other fields is valid with a cause and an instant. -/
theorem assertValid_eq_ok_iff {newId : UniqueId} {eventType : EventType}
    {order : OrderNumber} {fact : Fact} {ctx : TransitionContext} :
    assertValidDomainEventEnvelope
        { eventId := some newId
          eventType := eventType.wireName
          aggregateId := some order
          correlationId := some order
          causationId := ctx.causationId
          occurredAt := ctx.occurredAt
          payload := some fact } = .ok () ↔ ctx.Valid := by
  obtain ⟨named, matching⟩ := isEventType_wireName eventType
  obtain ⟨occurredAt, causationId⟩ := ctx
  unfold assertValidDomainEventEnvelope
  simp only [named, matching, reduceCtorEq, Bool.true_eq_false, if_false]
  constructor
  · intro accepted
    rw [ite_error_eq_ok_iff] at accepted
    obtain ⟨caused, accepted⟩ := accepted
    split at accepted
    · rename_i time
      exact ⟨⟨time, rfl⟩, Option.isSome_iff_ne_none.mpr caused⟩
    · cases accepted
  · rintro ⟨⟨time, rfl⟩, caused⟩
    rw [if_neg (Option.isSome_iff_ne_none.mp caused)]

/-- An event of an order is built exactly when its context is valid and its
payload can be. -/
theorem buildOrderEvent_eq_ok_iff {newId : UniqueId} {eventType : EventType}
    {payload : OrderProps → Except OrderThrow Fact} {props : OrderProps}
    {ctx : TransitionContext} {event : DomainEventEnvelope} :
    buildOrderEvent newId eventType payload props ctx = .ok event ↔
      ctx.Valid ∧ ∃ fact, payload props = .ok fact ∧
        event =
          { eventId := some newId
            eventType := eventType.wireName
            aggregateId := some props.orderReference
            correlationId := some props.orderReference
            causationId := ctx.causationId
            occurredAt := ctx.occurredAt
            payload := some fact } := by
  simp only [buildOrderEvent, createDomainEvent, bind_eq_ok_iff, Except.ok.injEq]
  constructor
  · rintro ⟨_, _, fact, built, _, valid, rfl⟩
    exact ⟨assertValid_eq_ok_iff.mp valid, fact, built, rfl⟩
  · rintro ⟨valid, fact, built, rfl⟩
    obtain ⟨time, isDate⟩ := valid.occurredAt
    refine ⟨(), ?_, fact, built, (), assertValid_eq_ok_iff.mpr valid, rfl⟩
    rw [isDate]
    rfl

/-! ## When a failure keeps the order -/

/-- The operations that follow an edge with a fact of its own. -/
def OrderCall.MovesWithFact (status : OrderStatus) : OrderCall → Prop
  | .confirm _ => status = .creditApproved
  | .complete _ => status = .paid
  | .cancel reason _ _ =>
      ∃ known, reason.bind cancellationReasonOf = some known ∧
        status.Admits known
  | _ => False

/-- The fact of an operation that moves can be built from what it is given. -/
def OrderCall.Announceable : OrderCall → Prop
  | .confirm ctx => ctx.Valid
  | .complete ctx => ctx.Valid
  | .cancel _ ctx compensationSteps => ctx.Valid ∧ compensationSteps.isSome
  | _ => True

namespace LiveOrder

theorem readsOnly_checked {α : Type} (computation : Except OrderError α) :
    ReadsOnly (checked computation) :=
  readsOnly_ofExcept _

theorem keptAt_replaceLines (lines : List OrderLine) (order : LiveOrder) :
    KeptAt (replaceLines lines) order :=
  .bind readsOnly_get fun _ _ =>
    .bind (readsOnly_checked _) fun _ _ => keptAt_modify _ order

theorem keptAt_addLine (newId : UniqueId) (input : PlaceOrderLineInput)
    (order : LiveOrder) : KeptAt (addLine newId input) order :=
  .bind readsOnly_get fun _ _ =>
    .bind (readsOnly_checked _) fun _ _ =>
      .bind (readsOnly_checked _) fun _ _ => keptAt_replaceLines _ order

theorem keptAt_removeLine (lineId : UniqueId) (order : LiveOrder) :
    KeptAt (removeLine lineId) order := by
  apply KeptAt.bind readsOnly_get
  intro read _
  apply KeptAt.bind (readsOnly_checked _)
  intro _ _
  split
  · exact (readsOnly_throw _).keptAt order
  · dsimp only
    split
    · exact (readsOnly_throw _).keptAt order
    · exact keptAt_replaceLines _ order

theorem keptAt_changeLineQuantity (lineId : UniqueId) (quantity : Quantity)
    (order : LiveOrder) : KeptAt (changeLineQuantity lineId quantity) order := by
  apply KeptAt.bind readsOnly_get
  intro read _
  apply KeptAt.bind (readsOnly_checked _)
  intro _ _
  split
  · exact (readsOnly_throw _).keptAt order
  · exact keptAt_replaceLines _ order

theorem keptAt_recordSagaFailure (newId : UniqueId) (input : SagaFailureInput)
    (ctx : TransitionContext) (order : LiveOrder) :
    KeptAt (recordSagaFailure newId input ctx) order :=
  .bind readsOnly_get fun _ _ =>
    .bind (readsOnly_ofExcept _) fun _ _ => keptAt_modify _ order

/-- Without an edge the funnel throws before it assigns anything. -/
theorem transitionTo_of_not_edge {target : OrderStatus} {ctx : TransitionContext}
    {reason : Option CancellationReason} {order : LiveOrder}
    {buildEvent : Option
      (OrderProps → TransitionContext → Except OrderThrow DomainEventEnvelope)}
    (noEdge : findTransition order.props.status target = none) :
    (transitionTo target ctx reason buildEvent).run order =
      .error (.order (.transitionNotAllowed order.props.orderReference
        order.props.status target)) order := by
  simp only [transitionTo, EStateM.run_bind, EStateM.run_get, noEdge]
  rfl

/-- Without a builder the funnel assigns the status of an edge and is done. -/
theorem transitionTo_of_edge {target : OrderStatus} {ctx : TransitionContext}
    {reason : Option CancellationReason} {order : LiveOrder}
    {transition : OrderTransition}
    (found : findTransition order.props.status target = some transition) :
    (transitionTo target ctx reason none).run order =
      .ok () (assignStatus target reason order) := by
  simp only [transitionTo, EStateM.run_bind, EStateM.run_get, found,
    EStateM.run_modify]
  cases transition.emits <;> rfl

/-- On an edge with a fact the status is assigned, and stays assigned where the
fact cannot be built. -/
theorem transitionTo_of_fact {target : OrderStatus} {ctx : TransitionContext}
    {reason : Option CancellationReason} {order : LiveOrder}
    {build : OrderProps → TransitionContext →
      Except OrderThrow DomainEventEnvelope}
    {transition : OrderTransition} {eventType : EventType}
    (found : findTransition order.props.status target = some transition)
    (emits : transition.emits = some eventType) :
    (transitionTo target ctx reason (some build)).run order =
      match build (assignStatus target reason order).props ctx with
      | .ok event =>
          .ok () (addDomainEvent event (assignStatus target reason order))
      | .error thrown => .error thrown (assignStatus target reason order) := by
  simp only [transitionTo, EStateM.run_bind, EStateM.run_get, found, emits,
    EStateM.run_modify, run_ofExcept]
  cases build (assignStatus target reason order).props ctx <;> rfl

theorem keptAt_transitionTo (target : OrderStatus) (ctx : TransitionContext)
    (order : LiveOrder) : KeptAt (transitionTo target ctx none none) order := by
  intro thrown left threw
  cases found : findTransition order.props.status target with
  | none =>
      rw [transitionTo_of_not_edge found] at threw
      cases threw
      rfl
  | some transition =>
      rw [transitionTo_of_edge found] at threw
      cases threw

/-- The edges into the statuses an order announces all have a fact. -/
theorem emits_of_findTransition {source target : OrderStatus}
    {transition : OrderTransition}
    (announced : target = .confirmed ∨ target = .completed ∨ target = .cancelled)
    (found : findTransition source target = some transition) :
    ∃ eventType, transition.emits = some eventType := by
  have named : ∀ transition ∈ findTransition source target,
      transition.emits.isSome := by
    rcases announced with rfl | rfl | rfl <;> cases source <;> decide
  exact Option.isSome_iff_exists.mp (named transition found)

theorem ne_of_edge {source target : OrderStatus} (edge : Edge source target) :
    target ≠ source := by
  revert edge
  cases source <;> cases target <;> decide

/-- A transition with a fact keeps the order on failure exactly when it follows
no edge or its fact can be built. -/
theorem keptAt_transitionTo_iff {target : OrderStatus} {ctx : TransitionContext}
    {reason : Option CancellationReason} {order : LiveOrder}
    {build : OrderProps → TransitionContext →
      Except OrderThrow DomainEventEnvelope}
    (announced : target = .confirmed ∨ target = .completed ∨
      target = .cancelled) :
    KeptAt (transitionTo target ctx reason (some build)) order ↔
      (Edge order.props.status target →
        ∃ event, build (assignStatus target reason order).props ctx =
          .ok event) := by
  cases found : findTransition order.props.status target with
  | none =>
      have noEdge : ¬ Edge order.props.status target := by
        simp [Edge, found]
      constructor
      · exact fun _ edge => absurd edge noEdge
      · intro _ thrown left threw
        rw [transitionTo_of_not_edge found] at threw
        cases threw
        rfl
  | some transition =>
      have edge : Edge order.props.status target := by simp [Edge, found]
      obtain ⟨eventType, emits⟩ := emits_of_findTransition announced found
      constructor
      · intro kept _
        cases built : build (assignStatus target reason order).props ctx with
        | ok event => exact ⟨event, rfl⟩
        | error thrown =>
            have threw : (transitionTo target ctx reason (some build)).run order =
                .error thrown (assignStatus target reason order) := by
              rw [transitionTo_of_fact found emits, built]
            have same := congrArg (fun order : LiveOrder => order.props.status)
              (kept thrown _ threw)
            exact absurd same (ne_of_edge edge)
      · intro builds thrown left threw
        obtain ⟨event, built⟩ := builds edge
        rw [transitionTo_of_fact found emits, built] at threw
        cases threw

/-- The events of the order's own edges are built from a valid context. -/
theorem exists_buildOrderEvent_iff {newId : UniqueId} {eventType : EventType}
    {payload : OrderProps → Except OrderThrow Fact} {props : OrderProps}
    {ctx : TransitionContext} :
    (∃ event, buildOrderEvent newId eventType payload props ctx = .ok event) ↔
      ctx.Valid ∧ ∃ fact, payload props = .ok fact := by
  constructor
  · rintro ⟨event, built⟩
    obtain ⟨valid, fact, accepted, _⟩ := buildOrderEvent_eq_ok_iff.mp built
    exact ⟨valid, fact, accepted⟩
  · rintro ⟨valid, fact, accepted⟩
    exact ⟨_, buildOrderEvent_eq_ok_iff.mpr ⟨valid, fact, accepted, rfl⟩⟩

/-- A reason that is admitted goes through the funnel. -/
theorem cancel_of_admitted {newId : UniqueId} {reason : Option String}
    {known : CancellationReason} {ctx : TransitionContext}
    {compensationSteps : Option (List CompensationStep)} {order : LiveOrder}
    (isKnown : reason.bind cancellationReasonOf = some known)
    (admitted : order.props.status.Admits known) :
    (cancel newId reason ctx compensationSteps).run order =
      (transitionTo .cancelled ctx (some known)
        (some (buildOrderCancelledEvent newId known compensationSteps))).run
          order := by
  obtain ⟨text, rfl, ofText⟩ := Option.bind_eq_some_iff.mp isKnown
  have cancellable : findTransition order.props.status .cancelled ≠ none :=
    Option.isSome_iff_ne_none.mp admitted.cancellable
  simp only [cancel, EStateM.run_bind, EStateM.run_get, ofText]
  rw [if_neg cancellable,
    if_neg (fun refused => refused.2 (admitted.stockRejected refused.1)),
    if_neg (fun refused => refused.2 (admitted.creditRejected refused.1))]

/-- Any other reason is refused before anything is assigned. -/
theorem cancel_of_refused {newId : UniqueId} {reason : Option String}
    {ctx : TransitionContext} {compensationSteps : Option (List CompensationStep)}
    {order : LiveOrder}
    (refused : ∀ known, reason.bind cancellationReasonOf = some known →
      ¬ order.props.status.Admits known) :
    ∃ thrown, (cancel newId reason ctx compensationSteps).run order =
      .error thrown order := by
  simp only [cancel, EStateM.run_bind, EStateM.run_get]
  cases reason with
  | none => exact ⟨_, rfl⟩
  | some text =>
      cases ofText : cancellationReasonOf text with
      | none => exact ⟨_, by simp only [ofText]; rfl⟩
      | some known =>
          have notAdmitted := refused known ofText
          simp only [ofText]
          split
          · exact ⟨_, rfl⟩
          · rename_i cancellable
            split
            · exact ⟨_, rfl⟩
            · rename_i stock
              split
              · exact ⟨_, rfl⟩
              · rename_i credit
                refine absurd ⟨?_, ?_, ?_⟩ notAdmitted
                · exact Option.isSome_iff_ne_none.mpr cancellable
                · intro isStock
                  by_contra elsewhere
                  exact stock ⟨isStock, elsewhere⟩
                · intro isCredit
                  by_contra elsewhere
                  exact credit ⟨isCredit, elsewhere⟩

theorem keptAt_cancel_iff {newId : UniqueId} {reason : Option String}
    {ctx : TransitionContext} {compensationSteps : Option (List CompensationStep)}
    {order : LiveOrder} :
    KeptAt (cancel newId reason ctx compensationSteps) order ↔
      ((∃ known, reason.bind cancellationReasonOf = some known ∧
          order.props.status.Admits known) →
        ctx.Valid ∧ compensationSteps.isSome) := by
  have reduces : KeptAt (cancel newId reason ctx compensationSteps) order ↔
      ∀ known, reason.bind cancellationReasonOf = some known →
        order.props.status.Admits known →
          KeptAt (transitionTo .cancelled ctx (some known)
            (some (buildOrderCancelledEvent newId known compensationSteps)))
              order := by
    constructor
    · intro kept known isKnown admitted thrown left threw
      rw [← cancel_of_admitted isKnown admitted] at threw
      exact kept thrown left threw
    · intro kept thrown left threw
      by_cases admits : ∃ known, reason.bind cancellationReasonOf = some known ∧
          order.props.status.Admits known
      · obtain ⟨known, isKnown, admitted⟩ := admits
        rw [cancel_of_admitted isKnown admitted] at threw
        exact kept known isKnown admitted thrown left threw
      · obtain ⟨other, refused⟩ := @cancel_of_refused newId reason ctx
          compensationSteps order fun known isKnown admitted =>
            admits ⟨known, isKnown, admitted⟩
        rw [refused] at threw
        cases threw
        rfl
  rw [reduces]
  constructor
  · rintro kept ⟨known, isKnown, admitted⟩
    have builds := (keptAt_transitionTo_iff (.inr (.inr rfl))).mp
      (kept known isKnown admitted) admitted.cancellable
    obtain ⟨valid, fact, built⟩ := exists_buildOrderEvent_iff.mp builds
    cases compensationSteps with
    | none => cases built
    | some steps => exact ⟨valid, rfl⟩
  · intro announceable known isKnown admitted
    obtain ⟨valid, spread⟩ := announceable ⟨known, isKnown, admitted⟩
    obtain ⟨steps, rfl⟩ := Option.isSome_iff_exists.mp spread
    rw [keptAt_transitionTo_iff (.inr (.inr rfl))]
    exact fun _ => exists_buildOrderEvent_iff.mpr ⟨valid, _, rfl⟩

theorem edge_confirmed_iff (status : OrderStatus) :
    Edge status .confirmed ↔ status = .creditApproved := by
  cases status <;> decide

theorem edge_completed_iff (status : OrderStatus) :
    Edge status .completed ↔ status = .paid := by
  cases status <;> decide

/-- A failed operation leaves the order as it was exactly when it does not move
the order along an edge whose fact it cannot build. -/
theorem failure_keeps_iff (newId : UniqueId) (order : LiveOrder)
    (call : OrderCall) :
    (∀ thrown left, (call.run newId).run order = .error thrown left →
        left = order) ↔
      (call.MovesWithFact order.props.status → call.Announceable) := by
  change KeptAt (call.run newId) order ↔ _
  have always : KeptAt (call.run newId) order → call.Announceable →
      (KeptAt (call.run newId) order ↔
        (call.MovesWithFact order.props.status → call.Announceable)) :=
    fun kept announceable => ⟨fun _ _ => announceable, fun _ => kept⟩
  cases call with
  | addLine lineId input => exact always (keptAt_addLine lineId input order) trivial
  | removeLine lineId => exact always (keptAt_removeLine lineId order) trivial
  | changeLineQuantity lineId quantity =>
      exact always (keptAt_changeLineQuantity lineId quantity order) trivial
  | markStockReserved ctx | approveCredit ctx | markDespatched ctx
  | markInvoiced ctx | markPaid ctx =>
      exact always (keptAt_transitionTo _ ctx order) trivial
  | confirm ctx =>
      change KeptAt (transitionTo .confirmed ctx none _) order ↔ _
      rw [keptAt_transitionTo_iff (.inl rfl), edge_confirmed_iff]
      simp only [buildOrderConfirmedEvent, exists_buildOrderEvent_iff,
        OrderCall.MovesWithFact, OrderCall.Announceable, Except.ok.injEq,
        exists_eq', and_true]
  | complete ctx =>
      change KeptAt (transitionTo .completed ctx none _) order ↔ _
      rw [keptAt_transitionTo_iff (.inr (.inl rfl)), edge_completed_iff]
      simp only [buildOrderCompletedEvent, exists_buildOrderEvent_iff,
        OrderCall.MovesWithFact, OrderCall.Announceable, Except.ok.injEq,
        exists_eq', and_true]
  | cancel reason ctx compensationSteps => exact keptAt_cancel_iff
  | recordSagaFailure input ctx =>
      exact always (keptAt_recordSagaFailure newId input ctx order) trivial

/-- An order whose credit is approved, to be confirmed at an instant that is no
instant. -/
def creditApproved : LiveOrder where
  props :=
    { orderReference := ⟨1⟩
      retailerCode := "RET-01"
      companyCode := "COM-01"
      currency := "EUR"
      lines :=
        [{ id := ⟨0⟩
           productCode := "SKU-1"
           description := "one"
           quantity := 2
           unitPrice := ⟨500, .eur⟩
           lineDiscount := ⟨0, .eur⟩ }]
      initialAmount := ⟨1000, .eur⟩
      initialDiscount := ⟨0, .eur⟩
      totalAmount := ⟨1000, .eur⟩
      status := .creditApproved
      cancellationReason := none
      notes := none }
  domainEvents := []

/-- The confirmation throws, and the order is confirmed without its fact. -/
theorem confirm_without_instant :
    ∃ left, ((OrderCall.confirm ⟨.date none, some ⟨1⟩⟩).run ⟨2⟩).run
        creditApproved = .error .invalidTime left ∧
      left.props.status = .confirmed ∧ left.domainEvents = [] ∧
        left ≠ creditApproved :=
  ⟨assignStatus .confirmed none creditApproved, rfl, rfl, rfl, by decide⟩

/-! ## The aggregate without its contexts -/

/-- The operation of a call, as the aggregate's invariant knows it. -/
def operationOf : OrderCall → OrderOperation
  | .addLine newId input => .addLine newId input
  | .removeLine lineId => .removeLine lineId
  | .changeLineQuantity lineId quantity => .changeLineQuantity lineId quantity
  | .markStockReserved _ => .markStockReserved
  | .approveCredit _ => .approveCredit
  | .confirm _ => .confirm
  | .markDespatched _ => .markDespatched
  | .markInvoiced _ => .markInvoiced
  | .markPaid _ => .markPaid
  | .complete _ => .complete
  | .cancel reason _ compensationSteps =>
      .cancel reason (compensationSteps.getD [])
  | .recordSagaFailure input _ => .recordSagaFailure input

/-- The context and the steps are such that every event can be built. -/
def Accepted : OrderCall → Prop
  | .recordSagaFailure _ ctx => ctx.Valid
  | call => call.Announceable

/-- An action ends as the aggregate's operation does: both succeed on the same
order, or both throw the same error and the order is as it was. -/
def Agrees (order : LiveOrder) (performed : Except OrderError Order) :
    EStateM.Result OrderThrow LiveOrder Unit → Prop
  | .ok _ left => performed = .ok left.toOrder
  | .error thrown left =>
      ∃ error, thrown = .order error ∧ performed = .error error ∧ left = order

/-- A check that both make, before both go on. -/
theorem agrees_checked {α : Type} {order : LiveOrder}
    {computation : Except OrderError α} {rest : α → OrderM Unit}
    {performs : α → Except OrderError Order}
    (follows : ∀ value, computation = .ok value →
      Agrees order (performs value) ((rest value).run order)) :
    Agrees order (computation >>= performs)
      ((checked computation >>= rest).run order) := by
  rw [EStateM.run_bind, checked, run_ofExcept]
  cases ran : computation with
  | ok value => exact follows value ran
  | error error => exact ⟨error, rfl, rfl, rfl⟩

theorem agrees_throw {order : LiveOrder} (error : OrderError) :
    Agrees order (.error error)
      ((throw (.order error) : OrderM Unit).run order) :=
  ⟨error, rfl, rfl, rfl⟩

theorem agrees_replaceLines (order : LiveOrder) (lines : List OrderLine) :
    Agrees order (order.toOrder.replaceLines lines)
      ((replaceLines lines).run order) := by
  unfold replaceLines
  rw [EStateM.run_bind, EStateM.run_get]
  exact agrees_checked fun totals _ => rfl

/-- An event that is added is its fact that is added. -/
theorem toOrder_addDomainEvent (event : DomainEventEnvelope) (order : LiveOrder) :
    (addDomainEvent event order).toOrder =
      ⟨order.props, order.toOrder.domainEvents ++ event.payload.toList⟩ := by
  cases carried : event.payload with
  | none => simp [toOrder, addDomainEvent, carried]
  | some fact => simp [toOrder, addDomainEvent, carried]

theorem agrees_transitionTo {order : LiveOrder} {target : OrderStatus}
    (ctx : TransitionContext) :
    Agrees order (order.toOrder.transitionTo target none none)
      ((transitionTo target ctx none none).run order) := by
  cases found : findTransition order.props.status target with
  | none =>
      rw [transitionTo_of_not_edge found]
      refine ⟨_, rfl, ?_, rfl⟩
      simp only [Order.transitionTo, toOrder, found]
  | some transition =>
      rw [transitionTo_of_edge found]
      simp only [Agrees, Order.transitionTo, toOrder, found, assignStatus]
      cases transition.emits <;> rfl

/-- A transition whose fact can be built appends the fact. -/
theorem agrees_transitionTo_fact {order : LiveOrder} {target : OrderStatus}
    {ctx : TransitionContext} {reason : Option CancellationReason}
    {newId : UniqueId} {eventType : EventType} {fact : OrderProps → Fact}
    (announced : target = .confirmed ∨ target = .completed ∨ target = .cancelled)
    (valid : ctx.Valid) :
    Agrees order (order.toOrder.transitionTo target reason (some fact))
      ((transitionTo target ctx reason
        (some (buildOrderEvent newId eventType fun props =>
          .ok (fact props)))).run order) := by
  cases found : findTransition order.props.status target with
  | none =>
      rw [transitionTo_of_not_edge found]
      refine ⟨_, rfl, ?_, rfl⟩
      simp only [Order.transitionTo, toOrder, found]
  | some transition =>
      obtain ⟨emitted, emits⟩ := emits_of_findTransition announced found
      have built := (@buildOrderEvent_eq_ok_iff newId eventType
        (fun props => .ok (fact props)) (assignStatus target reason order).props
          ctx _).mpr ⟨valid, _, rfl, rfl⟩
      rw [transitionTo_of_fact found emits, built]
      simp only [Agrees, toOrder_addDomainEvent, Option.toList_some]
      simp only [Order.transitionTo, toOrder, found, emits, assignStatus]

theorem agrees_cancel {newId : UniqueId} {reason : Option String}
    {ctx : TransitionContext} {steps : List CompensationStep} {order : LiveOrder}
    (valid : ctx.Valid) :
    Agrees order (order.toOrder.cancelUnchecked reason steps)
      ((cancel newId reason ctx (some steps)).run order) := by
  simp only [cancel, EStateM.run_bind, EStateM.run_get, Order.cancelUnchecked]
  cases reason with
  | none => exact agrees_throw _
  | some text =>
      cases ofText : cancellationReasonOf text with
      | none =>
          simp only [ofText]
          exact agrees_throw _
      | some known =>
          simp only [ofText, Order.cancel]
          change Agrees order (if findTransition order.props.status .cancelled = none
            then _ else _) _
          split
          · exact agrees_throw _
          · change Agrees order (if known = .stockRejected ∧
              order.props.status ≠ .placed then _ else _) _
            split
            · exact agrees_throw _
            · change Agrees order (if known = .creditRejected ∧
                order.props.status ≠ .stockReserved then _ else _) _
              split
              · exact agrees_throw _
              · exact agrees_transitionTo_fact (.inr (.inr rfl)) valid

/-- With what its events need, an operation does what the invariant of the
aggregate says of it. -/
theorem run_agrees (newId : UniqueId) (order : LiveOrder) {call : OrderCall}
    (accepted : Accepted call) :
    Agrees order (order.toOrder.perform (operationOf call))
      ((call.run newId).run order) := by
  cases call with
  | addLine lineId input =>
      change Agrees order _ ((addLine lineId input).run order)
      unfold addLine
      rw [EStateM.run_bind, EStateM.run_get]
      exact agrees_checked fun _ _ => agrees_checked fun _ _ =>
        agrees_replaceLines order _
  | removeLine lineId =>
      change Agrees order _ ((removeLine lineId).run order)
      unfold removeLine
      rw [EStateM.run_bind, EStateM.run_get]
      apply agrees_checked
      intro _ _
      dsimp only
      change Agrees order (if order.props.lines.any
        (fun line => line.id = lineId) = false then _ else _) _
      split
      · exact agrees_throw _
      · change Agrees order (if order.props.lines.filter
          (fun line => ¬ line.id = lineId) = [] then _ else _) _
        by_cases emptied :
            order.props.lines.filter (fun line => ¬ line.id = lineId) = []
        · rw [if_pos emptied, if_pos emptied]
          exact agrees_throw _
        · rw [if_neg emptied, if_neg emptied]
          exact agrees_replaceLines order _
  | changeLineQuantity lineId quantity =>
      change Agrees order _ ((changeLineQuantity lineId quantity).run order)
      unfold changeLineQuantity
      rw [EStateM.run_bind, EStateM.run_get]
      apply agrees_checked
      intro _ _
      change Agrees order (if order.props.lines.find?
        (fun line => line.id = lineId) = none then _ else _) _
      split
      · exact agrees_throw _
      · exact agrees_replaceLines order _
  | markStockReserved ctx | approveCredit ctx | markDespatched ctx
  | markInvoiced ctx | markPaid ctx => exact agrees_transitionTo ctx
  | confirm ctx => exact agrees_transitionTo_fact (.inl rfl) accepted
  | complete ctx => exact agrees_transitionTo_fact (.inr (.inl rfl)) accepted
  | cancel reason ctx compensationSteps =>
      obtain ⟨valid, spread⟩ := accepted
      obtain ⟨steps, rfl⟩ := Option.isSome_iff_exists.mp spread
      exact agrees_cancel valid
  | recordSagaFailure input ctx =>
      have built := (@buildOrderEvent_eq_ok_iff newId .orderSagaFailed
        (fun props => .ok (orderSagaFailedEvent input props)) order.props
          ctx _).mpr ⟨accepted, _, rfl, rfl⟩
      change Agrees order _ ((recordSagaFailure newId input ctx).run order)
      simp only [recordSagaFailure, EStateM.run_bind, EStateM.run_get,
        run_ofExcept, buildOrderSagaFailedEvent, built, EStateM.run_modify,
        Agrees, toOrder_addDomainEvent, Option.toList_some]
      rfl

end LiveOrder

end OrderToCash.Orders
