import OrderToCash.Fulfillment.Arbitration

/-!
# The verdict of a stock reservation

A repeat of a reservation is recognised by the reservation rows of the order,
which a rejection does not make.  An order gets one verdict as long as its
request is not run again after a rejection; run again, it is decided afresh.
-/

namespace OrderToCash.Fulfillment

open OrderToCash.Contracts
open OrderToCash.Kernel
open OrderToCash.Transition

namespace OrderStock

/-- The verdicts the order has been given. -/
def verdicts (stock : OrderStock) : Nat :=
  stock.emitted .stockReserved + stock.emitted .stockRejected

/-- The order has one verdict at most, and after a rejection no reservation. -/
structure OneVerdict (stock : OrderStock) : Prop where
  atMostOne : stock.verdicts ≤ 1
  rejectedAlone : stock.emitted .stockRejected ≠ 0 → stock.phase = none

/-- A move that adds no verdict of its own keeps the verdict unique where the
order was reserved before. -/
theorem OneVerdict.of_settled {stock stock' : OrderStock} (one : stock.OneVerdict)
    (held : stock.phase = some .reserved)
    (sameReserved : stock'.emitted .stockReserved = stock.emitted .stockReserved)
    (sameRejected : stock'.emitted .stockRejected = stock.emitted .stockRejected) :
    stock'.OneVerdict := by
  constructor
  · rw [verdicts, sameReserved, sameRejected]
    exact one.atMostOne
  · intro rejectedAfter
    rw [sameRejected] at rejectedAfter
    rw [one.rejectedAlone rejectedAfter] at held
    cases held

/-- A move that is not a reservation after a rejection keeps the verdict
unique. -/
theorem OneVerdict.move {stock stock' : OrderStock}
    {request : FulfillmentRequest} (one : stock.OneVerdict)
    (consistent : stock.Consistent) (move : stock.Move request stock')
    (notRepeated : ∀ reserve, request = .stockReserve reserve →
      stock.emitted .stockRejected = 0) : stock'.OneVerdict := by
  have reservedOf := congrArg Traces.stockReserved consistent.leftBehind
  simp only [traces] at reservedOf
  cases move with
  | reserveRepeated | releaseRepeated | despatchRepeated => exact one
  | rejected request payload first ofOrder =>
      have noneBefore := notRepeated request rfl
      have phase := phase_eq_none_iff.mpr first
      rw [phase, tracesOf] at reservedOf
      refine ⟨?_, fun _ => phase⟩
      simp [verdicts, Fact.eventType, reservedOf, noneBefore]
  | reserved request payload rows first something allReserved forLines ofOrder =>
      have noneBefore := notRepeated request rfl
      rw [phase_eq_none_iff.mpr first, tracesOf] at reservedOf
      have sameFacts : ∀ eventType,
          OrderStock.emitted { stock with reservations := rows } eventType =
            stock.emitted eventType :=
        emitted_congr rfl
      constructor
      · simp [verdicts, Fact.eventType, sameFacts, reservedOf, noneBefore]
      · intro rejectedAfter
        refine absurd ?_ rejectedAfter
        simp [Fact.eventType, sameFacts, noneBefore]
  | released request payload held ofOrder sameReason =>
      refine one.of_settled held ?_ ?_
      · rw [emitted_recorded]
        rfl
      · rw [emitted_recorded]
        rfl
  | despatched request despatch payload held noDespatch ofOrder units =>
      refine one.of_settled held ?_ ?_
      · rw [emitted_recorded]
        rfl
      · rw [emitted_recorded]
        rfl

end OrderStock

namespace FulfillmentSystem

/-- The verdict facts of the order. -/
def verdicts (system : FulfillmentSystem) (order : OrderNumber) : Nat :=
  system.emitted order .stockReserved + system.emitted order .stockRejected

/-- The reservation request whose transaction an action runs. -/
def ranReserve? (system : FulfillmentSystem) :
    FulfillmentAction → Option StockReserveRequest
  | .run index =>
      match system.calls[index]? with
      | some (.stockReserve request) => some request
      | _ => none
  | _ => none

/-- No reservation of the order runs once the order has been rejected. -/
def NotAfterRejection (order : OrderNumber) :
    Guard FulfillmentSystem FulfillmentAction :=
  fun system action => ∀ request ∈ system.ranReserve? action,
    request.orderReference = order → system.emitted order .stockRejected = 0

instance (order : OrderNumber) (system : FulfillmentSystem)
    (action : FulfillmentAction) :
    Decidable (NotAfterRejection order system action) :=
  inferInstanceAs (Decidable (∀ request ∈ system.ranReserve? action, _ → _))

/-- An order's reservation gets one verdict over every run in which none of its
repeats runs after a rejection. -/
theorem reserve_verdict_unique (catalogue : StockCatalogue) (order : OrderNumber)
    (companyCode : String) (lines : List StockReserveLine)
    {system : FulfillmentSystem}
    (reached : Reachable step
      (fun state action => SameReserveRequest order companyCode lines state action ∧
        NotAfterRejection order state action)
      (initial catalogue) system) :
    system.verdicts order ≤ 1 := by
  have kept : system.Arbitrated order companyCode lines ∧
      (system.db.orderStock order).OneVerdict := by
    induction reached with
    | refl =>
        refine ⟨arbitrated_initial catalogue order companyCode lines, ?_, ?_⟩
        · exact Nat.zero_le 1
        · exact fun rejected => absurd rfl rejected
    | tail path admitted stepped inductionHypothesis =>
        obtain ⟨arbitrated, one⟩ := inductionHypothesis
        obtain ⟨sameRequest, notAfter⟩ := admitted
        refine ⟨arbitrated_step arbitrated sameRequest stepped, ?_⟩
        rcases orderStock_step arbitrated stepped with
          same | ⟨index, call, rfl, found, ofOrder, move⟩
        · rw [same]
          exact one
        · refine one.move arbitrated.consistent move fun reserve isReserve => ?_
          cases call with
          | stockReserve request =>
              refine notAfter request ?_ (Option.some.inj ofOrder)
              simp [ranReserve?, found]
          | stockRelease | despatchLooked | despatchCreate | stockReplenish =>
              cases isReserve
  exact kept.2.atMostOne

/-! ## A rejection decided afresh -/

/-- One product, too few units of it. -/
def scarceProduct : StockCatalogue where
  rows := [⟨⟨100⟩, "COM-0001", "PRD-0001", 5, 0, 2⟩]
  ids := by decide
  keys := by decide
  unreserved := by decide

def tenUnits : StockReserveRequest :=
  ⟨⟨1⟩, "RET-0001", "COM-0001", [⟨"PRD-0001", 10⟩]⟩

/-- The order is rejected, its reply is lost, the stock is replenished, and the
request is delivered again. -/
def reservedAfterRejection : List FulfillmentAction :=
  [ .receive (.stockReserve tenUnits),
    .run 0,
    .receive (.stockReplenish ⟨"COM-0001", [⟨"PRD-0001", 20⟩]⟩),
    .run 0,
    .receive (.stockReserve tenUnits),
    .run 0 ]

/-- The order that was rejected gets a second, opposite verdict. -/
theorem rejected_order_reserved :
    ¬ (∀ (catalogue : StockCatalogue) (order : OrderNumber) (companyCode : String)
      (lines : List StockReserveLine) (system : FulfillmentSystem),
      Reachable step (SameReserveRequest order companyCode lines)
          (initial catalogue) system →
        system.verdicts order ≤ 1) := by
  intro claimed
  have runs : ((execute step (fun state action =>
      decide (SameReserveRequest ⟨1⟩ "COM-0001" tenUnits.lines state action))
        (initial scarceProduct) reservedAfterRejection).map fun system =>
      (system.emitted ⟨1⟩ .stockRejected, system.emitted ⟨1⟩ .stockReserved)) =
        some (1, 1) := by
    decide
  obtain ⟨system, ran, twice⟩ := Option.map_eq_some_iff.mp runs
  have unique := claimed scarceProduct ⟨1⟩ "COM-0001" tenUnits.lines system
    (reachable_of_execute ran)
  simp only [Prod.mk.injEq] at twice
  rw [verdicts, twice.1, twice.2] at unique
  exact absurd unique (by decide)

/-- A run of a rejected order that is not asked again. -/
theorem rejected_order_once :
    ∃ system,
      execute step (fun state action =>
          decide (SameReserveRequest ⟨1⟩ "COM-0001" tenUnits.lines state action ∧
            NotAfterRejection ⟨1⟩ state action))
        (initial scarceProduct) (reservedAfterRejection.take 5) = some system ∧
      system.verdicts ⟨1⟩ ≤ 1 := by
  have runs : (execute step (fun state action =>
      decide (SameReserveRequest ⟨1⟩ "COM-0001" tenUnits.lines state action ∧
        NotAfterRejection ⟨1⟩ state action))
        (initial scarceProduct) (reservedAfterRejection.take 5)).isSome = true := by
    decide
  obtain ⟨system, ran⟩ := Option.isSome_iff_exists.mp runs
  exact ⟨system, ran, reserve_verdict_unique scarceProduct ⟨1⟩ "COM-0001"
    tenUnits.lines (reachable_of_execute ran)⟩

end FulfillmentSystem

end OrderToCash.Fulfillment
