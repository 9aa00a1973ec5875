import OrderToCash.Orders.FailedOperations

/-!
# The life of an order

An order is placed or rebuilt from a snapshot, and lives through operations with
whatever they are given.  One that throws leaves the order as far as it had got:
a transition whose fact cannot be built has assigned its status by then.
-/

namespace OrderToCash.Orders

open OrderToCash.Checked
open OrderToCash.Contracts
open OrderToCash.Kernel

/-! ## How an order is obtained -/

/-- The event of a placement renders the order's date; the instant of the context
is only validated. -/
def buildOrderPlacedEvent (newId : UniqueId) (orderDate : InstantInput)
    (props : OrderProps) (ctx : TransitionContext) :
    Except OrderThrow DomainEventEnvelope := do
  orderDate.toISOString
  createDomainEvent
    { eventId := some newId
      eventType := EventType.orderPlaced.wireName
      aggregateId := some props.orderReference
      correlationId := some props.orderReference
      causationId := ctx.causationId
      occurredAt := ctx.occurredAt
      payload := some (orderPlacedEvent props) }

/-- The only two ways an order comes into being, with everything they are given. -/
inductive OrderSource
  | place (newId : Nat → UniqueId) (eventId : UniqueId) (input : PlaceOrderInput)
      (orderDate : InstantInput) (ctx : TransitionContext)
  | reconstitute (snapshot : OrderProps)

/-- The order, or what is thrown in its place. -/
def OrderSource.obtain : OrderSource → Except OrderThrow LiveOrder
  | .place newId eventId input orderDate ctx => do
      let created ← (Order.place newId input).mapError .order
      let event ← buildOrderPlacedEvent eventId orderDate created.props ctx
      .ok ⟨created.props, [event]⟩
  | .reconstitute snapshot => do
      let rebuilt ← (Order.reconstitute snapshot).mapError .order
      .ok ⟨rebuilt.props, []⟩

/-- The currency is written as a code.  A placement checks that it is; a snapshot
is rebuilt from any currency whose upper case is one. -/
def OrderSource.WritesCode : OrderSource → Prop
  | .place .. => True
  | .reconstitute snapshot => isCurrencyCode snapshot.currency = true

/-- Every line is in the order's currency, to the letter. -/
def Order.SharesCurrency (order : Order) : Prop :=
  ∀ line ∈ order.props.lines,
    line.unitPrice.currency.text = order.props.currency ∧
      line.lineDiscount.currency.text = order.props.currency

namespace LiveOrder

/-- What an operation leaves, whether it throws or not. -/
def leftBy {α : Type} (operation : OrderM α) (order : LiveOrder) : LiveOrder :=
  match operation.run order with
  | .ok _ left => left
  | .error _ left => left

/-- The order after an operation; an event it builds is given the identifier. -/
def after (order : LiveOrder) (call : UniqueId × OrderCall) : LiveOrder :=
  leftBy (call.2.run call.1) order

def afterAll (order : LiveOrder) (calls : List (UniqueId × OrderCall)) : LiveOrder :=
  calls.foldl after order

/-- Something holds of an order after any operations; the next operation moves it
along Table T-1 or not at all, and all that follows respects what is final. -/
def ThroughLife (order : LiveOrder) (holds : Order → Prop) : Prop :=
  ∀ calls, holds (order.afterAll calls).toOrder ∧
    (∀ call, Order.Steps (order.afterAll calls).toOrder
      ((order.afterAll calls).after call).toOrder) ∧
    ∀ later, Order.Precedes (order.afterAll calls).toOrder
      ((order.afterAll calls).afterAll later).toOrder

end LiveOrder

/-! ## The currency -/

/-- The lines of a sound order are in its currency to the letter exactly where that
is written as a code. -/
theorem Order.Sound.sharesCurrency_iff {order : Order} (sound : order.Sound) :
    order.SharesCurrency ↔ isCurrencyCode order.props.currency = true := by
  constructor
  · intro shares
    rcases List.exists_mem_of_ne_nil _ sound.lines with ⟨line, lineMem⟩
    rw [← (shares line lineMem).1]
    exact line.unitPrice.currency.valid
  · intro isCode line lineMem
    have own := validateCurrency_text ⟨order.props.currency, isCode⟩
    have ofLine := sound.currency line lineMem
    rw [own] at ofLine
    constructor
    · rw [← Except.ok.inj ofLine.1]
    · rw [← Except.ok.inj ofLine.2]

/-- The currencies a placement has checked are the order's. -/
theorem currencies_of_assertLineCurrencies {order : OrderNumber} {currency : String}
    {lines : List PlaceOrderLineInput}
    (checked : assertLineCurrencies order currency lines = .ok ()) :
    ∀ line ∈ lines, line.unitPrice.currency.text = currency := by
  induction lines with
  | nil => exact List.forall_mem_nil _
  | cons first rest inductionHypothesis =>
      simp only [assertLineCurrencies, ite_error_eq_ok_iff, not_not] at checked
      rw [List.forall_mem_cons]
      exact ⟨checked.1, inductionHypothesis checked.2.2⟩

/-- An order is placed in a currency that is written as a code. -/
theorem isCurrencyCode_of_place {newId : Nat → UniqueId} {input : PlaceOrderInput}
    {order : Order} (placed : Order.place newId input = .ok order) :
    isCurrencyCode order.props.currency = true := by
  rcases Order.place_eq_ok placed with ⟨_, _, _, currency, _, notEmpty, _⟩
  simp only [Order.place, ite_error_eq_ok_iff] at placed
  rcases bind_eq_ok_iff.mp placed.2 with ⟨⟨⟩, checked, _⟩
  rcases List.exists_mem_of_ne_nil _ notEmpty with ⟨line, lineMem⟩
  rw [currency, ← currencies_of_assertLineCurrencies checked line lineMem]
  exact line.unitPrice.currency.valid

/-! ## What an operation leaves -/

namespace LiveOrder

/-- The funnel leaves the properties, or has assigned the status of an edge. -/
theorem props_of_transitionTo (target : OrderStatus) (ctx : TransitionContext)
    (reason : Option CancellationReason)
    (buildEvent : Option
      (OrderProps → TransitionContext → Except OrderThrow DomainEventEnvelope))
    (order : LiveOrder) :
    (leftBy (transitionTo target ctx reason buildEvent) order).props = order.props ∨
      (Edge order.props.status target ∧
        (leftBy (transitionTo target ctx reason buildEvent) order).props =
          (assignStatus target reason order).props) := by
  unfold leftBy
  cases found : findTransition order.props.status target with
  | none =>
      rw [transitionTo_of_not_edge found]
      exact .inl rfl
  | some transition =>
      have edge : Edge order.props.status target := by simp [Edge, found]
      refine .inr ⟨edge, ?_⟩
      simp only [transitionTo, EStateM.run_bind, EStateM.run_get, found,
        EStateM.run_modify]
      cases transition.emits with
      | none => rfl
      | some eventType =>
          cases buildEvent with
          | none => rfl
          | some build =>
              simp only [EStateM.run_bind, EStateM.run_get, run_ofExcept]
              cases build (assignStatus target reason order).props ctx <;> rfl

theorem change_of_move {target : OrderStatus} (notCancelled : target ≠ .cancelled)
    (ctx : TransitionContext)
    (buildEvent : Option
      (OrderProps → TransitionContext → Except OrderThrow DomainEventEnvelope))
    (order : LiveOrder) :
    Order.Change order.toOrder
      (leftBy (transitionTo target ctx none buildEvent) order).toOrder := by
  rcases props_of_transitionTo target ctx none buildEvent order with
    same | ⟨edge, moved⟩
  · exact .kept same
  · exact .moved target edge notCancelled moved

theorem change_of_cancel (newId : UniqueId) (reason : Option String)
    (ctx : TransitionContext) (compensationSteps : Option (List CompensationStep))
    (order : LiveOrder) :
    Order.Change order.toOrder
      (leftBy (cancel newId reason ctx compensationSteps) order).toOrder := by
  by_cases admits : ∃ known, reason.bind cancellationReasonOf = some known ∧
      order.props.status.Admits known
  · rcases admits with ⟨known, isKnown, admitted⟩
    have same : leftBy (cancel newId reason ctx compensationSteps) order =
        leftBy (transitionTo .cancelled ctx (some known)
          (some (buildOrderCancelledEvent newId known compensationSteps))) order := by
      unfold leftBy
      rw [cancel_of_admitted isKnown admitted]
    rw [same]
    rcases props_of_transitionTo .cancelled ctx (some known)
      (some (buildOrderCancelledEvent newId known compensationSteps)) order with
      kept | ⟨_, moved⟩
    · exact .kept kept
    · exact .cancelled known admitted moved
  · rcases @cancel_of_refused newId reason ctx compensationSteps order
      (fun known isKnown admitted => admits ⟨known, isKnown, admitted⟩) with
      ⟨thrown, refused⟩
    unfold leftBy
    rw [refused]
    exact .kept rfl

/-- An operation that assigns last ends as the aggregate's does. -/
theorem change_of_agrees {order : LiveOrder} {operation : OrderOperation}
    {run : OrderM Unit}
    (agrees : Agrees order (order.toOrder.perform operation) (run.run order)) :
    Order.Change order.toOrder (leftBy run order).toOrder := by
  unfold leftBy
  cases ran : run.run order with
  | ok value left =>
      rw [ran] at agrees
      exact Order.change_of_perform agrees
  | error thrown left =>
      rw [ran] at agrees
      rcases agrees with ⟨_, _, _, rfl⟩
      exact .kept rfl

/-- Every operation changes an order as an accepted one does, or leaves its
properties. -/
theorem change_of_after (order : LiveOrder) (call : UniqueId × OrderCall) :
    Order.Change order.toOrder (order.after call).toOrder := by
  rcases call with ⟨newId, call⟩
  cases call with
  | addLine lineId input =>
      exact change_of_agrees (@run_agrees newId order (.addLine lineId input) trivial)
  | removeLine lineId =>
      exact change_of_agrees (@run_agrees newId order (.removeLine lineId) trivial)
  | changeLineQuantity lineId quantity =>
      exact change_of_agrees
        (@run_agrees newId order (.changeLineQuantity lineId quantity) trivial)
  | markStockReserved ctx | approveCredit ctx | confirm ctx | markDespatched ctx
  | markInvoiced ctx | markPaid ctx | complete ctx =>
      exact change_of_move (by decide) ctx _ order
  | cancel reason ctx compensationSteps =>
      exact change_of_cancel newId reason ctx compensationSteps order
  | recordSagaFailure input ctx =>
      apply Order.Change.kept
      change (leftBy (recordSagaFailure newId input ctx) order).props = order.props
      unfold leftBy
      simp only [recordSagaFailure, EStateM.run_bind, EStateM.run_get, run_ofExcept]
      cases buildOrderSagaFailedEvent newId input order.props ctx <;> rfl

/-! ## Whole lives -/

theorem sound_of_obtain {source : OrderSource} {order : LiveOrder}
    (obtained : source.obtain = .ok order) :
    order.toOrder.Sound ∧
      (isCurrencyCode order.props.currency = true ↔ source.WritesCode) := by
  cases source with
  | place newId eventId input orderDate ctx =>
      rcases bind_eq_ok_iff.mp obtained with ⟨created, placed, obtained⟩
      rcases bind_eq_ok_iff.mp obtained with ⟨event, _, obtained⟩
      cases obtained
      have isPlaced := mapError_eq_ok_iff.mp placed
      exact ⟨(Order.sound_of_place isPlaced).of_props rfl,
        iff_of_true (isCurrencyCode_of_place isPlaced) trivial⟩
  | reconstitute snapshot =>
      rcases bind_eq_ok_iff.mp obtained with ⟨rebuilt, isRebuilt, obtained⟩
      cases obtained
      have loaded := mapError_eq_ok_iff.mp isRebuilt
      refine ⟨(Order.sound_of_reconstitute loaded).of_props rfl, ?_⟩
      rcases Order.reconstitute_eq_ok loaded with ⟨totals, _, rfl⟩
      exact Iff.rfl

theorem sound_afterAll {order : LiveOrder} (sound : order.toOrder.Sound)
    (calls : List (UniqueId × OrderCall)) : (order.afterAll calls).toOrder.Sound := by
  induction calls generalizing order with
  | nil => exact sound
  | cons call rest inductionHypothesis =>
      exact inductionHypothesis (sound.change (change_of_after order call))

theorem precedes_afterAll (order : LiveOrder) (calls : List (UniqueId × OrderCall)) :
    Order.Precedes order.toOrder (order.afterAll calls).toOrder := by
  induction calls generalizing order with
  | nil => exact .refl order.toOrder
  | cons call rest inductionHypothesis =>
      have first := (change_of_after order call).precedes
      exact first.trans (inductionHypothesis (order.after call))

/-- What holds of a sound order and all that follow it holds through its life. -/
theorem throughLife_of_afterAll {order : LiveOrder} {holds : Order → Prop}
    (everywhere : ∀ calls, holds (order.afterAll calls).toOrder) :
    order.ThroughLife holds := fun calls =>
  ⟨everywhere calls, fun call => (change_of_after _ call).steps,
    fun later => precedes_afterAll _ later⟩

/-- The invariant of the aggregate: however an order was obtained, it is sound
after any operations, the next one moves it along Table T-1 or not at all, and
everything that follows respects what is final.  Its lines are in its currency to
the letter, at every moment, exactly where the currency it was obtained with is
written as a code. -/
theorem sound_of_operations {source : OrderSource} {order : LiveOrder}
    (obtained : source.obtain = .ok order) :
    order.ThroughLife Order.Sound ∧
      (order.ThroughLife (fun reached => reached.Sound ∧ reached.SharesCurrency) ↔
        source.WritesCode) := by
  rcases sound_of_obtain obtained with ⟨sound, writes⟩
  have throughout := sound_afterAll sound
  have currency : ∀ calls, (order.afterAll calls).props.currency =
      order.props.currency := fun calls => (precedes_afterAll order calls).currency
  refine ⟨throughLife_of_afterAll throughout, ?_⟩
  rw [← writes]
  constructor
  · intro shares
    exact sound.sharesCurrency_iff.mp (shares []).1.2
  · intro isCode
    apply throughLife_of_afterAll
    intro calls
    refine ⟨throughout calls, (throughout calls).sharesCurrency_iff.mpr ?_⟩
    change isCurrencyCode (order.afterAll calls).props.currency = true
    rw [currency]
    exact isCode

/-- One line of two units at 5.00, placed. -/
def placedOneLine : OrderSource :=
  .place (fun index => ⟨index⟩) ⟨1⟩
    { orderReference := ⟨1⟩
      retailerCode := "RET-01"
      companyCode := "COM-01"
      currency := "EUR"
      lines :=
        [{ productCode := "SKU-1"
           description := "one"
           quantity := 2
           unitPrice := ⟨500, .eur⟩
           lineDiscount := ⟨0, .eur⟩ }]
      notes := none }
    (.date (some 0)) ⟨.date (some 0), some ⟨2⟩⟩

theorem sound_of_operations_oneLine :
    ∃ order, placedOneLine.obtain = .ok order ∧
      order.ThroughLife (fun reached => reached.Sound ∧ reached.SharesCurrency) := by
  have obtained : ∃ order, placedOneLine.obtain = .ok order := ⟨_, rfl⟩
  rcases obtained with ⟨order, obtained⟩
  exact ⟨order, obtained, (sound_of_operations obtained).2.mpr trivial⟩

/-- A snapshot whose currency is written small, with a line in euros. -/
def lowerCaseSnapshot : OrderSource :=
  .reconstitute { creditApproved.props with currency := "eur" }

/-- It is rebuilt, though its line is not in its currency. -/
theorem lowerCase_not_shared :
    ∃ order, lowerCaseSnapshot.obtain = .ok order ∧
      ¬ order.ThroughLife (fun reached => reached.Sound ∧ reached.SharesCurrency) := by
  have obtained : ∃ order, lowerCaseSnapshot.obtain = .ok order ∧
      order.props.currency = "eur" := ⟨_, rfl, rfl⟩
  rcases obtained with ⟨order, obtained, currency⟩
  refine ⟨order, obtained, fun shares => ?_⟩
  have isCode := (shares []).1.1.sharesCurrency_iff.mp (shares []).1.2
  change isCurrencyCode order.props.currency = true at isCode
  rw [currency] at isCode
  exact absurd isCode (by decide)

end LiveOrder

end OrderToCash.Orders
