import OrderToCash.Fulfillment.Arbitration

/-!
# What an answer says of an order

A release or a despatch that is answered, in whatever way, leaves the order with
nothing reserved, once there was a reservation to begin with; and a reservation
request that succeeds has its verdict in the outbox.
-/

namespace OrderToCash.Fulfillment

open OrderToCash.Contracts
open OrderToCash.Kernel
open OrderToCash.Transition

/-- The request ends a reservation: it releases or despatches it. -/
def FulfillmentRequest.Settles (request : FulfillmentRequest) (order : OrderNumber) :
    Prop :=
  match request with
  | .stockRelease release => release.orderReference = order
  | .despatchCreate despatch => despatch.orderReference = order
  | _ => False

theorem FulfillmentRequest.order_of_settles {request : FulfillmentRequest}
    {order : OrderNumber} (settles : request.Settles order) :
    request.order? = some order := by
  cases request with
  | stockRelease | despatchCreate => exact congrArg some settles
  | stockReserve | stockReplenish => exact settles.elim

namespace OrderStock

/-- The order has its reservation, or a rejection. -/
def IsDecided (stock : OrderStock) : Prop :=
  stock.phase ≠ none ∨ ∃ fact ∈ stock.facts, fact.eventType = .stockRejected

/-- An order that has a reservation keeps one. -/
theorem Move.phase_ne_none {stock stock' : OrderStock} {request : FulfillmentRequest}
    (moved : stock.Move request stock') (some : stock.phase ≠ none) :
    stock'.phase ≠ none := by
  cases moved with
  | reserveRepeated | rejected | releaseRepeated | despatchRepeated => exact some
  | reserved reserve payload rows first =>
      exact absurd (phase_eq_none_iff.mpr first) some
  | released release payload held =>
      exact ne_of_eq_of_ne (phase_withStatus .released some) (by simp)
  | despatched despatch advice payload held =>
      exact ne_of_eq_of_ne (phase_withStatus .consumed some) (by simp)

theorem IsDecided.move {stock stock' : OrderStock} {request : FulfillmentRequest}
    (decided : stock.IsDecided) (moved : stock.Move request stock') :
    stock'.IsDecided := by
  rcases decided with some | ⟨fact, factMem, isRejection⟩
  · exact Or.inl (moved.phase_ne_none some)
  · refine Or.inr ⟨fact, ?_, isRejection⟩
    cases moved with
    | reserveRepeated | releaseRepeated | despatchRepeated => exact factMem
    | rejected | reserved | released | despatched =>
        exact List.mem_append_left _ factMem

/-- A reservation request that commits decides the order. -/
theorem isDecided_of_reserve {stock stock' : OrderStock} {request : StockReserveRequest}
    (moved : stock.Move (.stockReserve request) stock') : stock'.IsDecided := by
  cases moved with
  | reserveRepeated _ existing =>
      exact Or.inl fun none => existing (phase_eq_none_iff.mp none)
  | rejected _ payload =>
      exact Or.inr ⟨_, List.mem_append_right _ (List.mem_singleton_self _), rfl⟩
  | reserved _ payload rows first something allReserved =>
      have phase := @phase_of_allReserved { stock with reservations := rows } something
        allReserved
      exact Or.inl (ne_of_eq_of_ne phase (by simp))

/-- A release or a despatch that commits leaves nothing reserved. -/
theorem not_reserved_of_settles {stock stock' : OrderStock}
    {request : FulfillmentRequest} {order : OrderNumber}
    (settles : request.Settles order) (moved : stock.Move request stock') :
    stock'.phase ≠ some .reserved := by
  cases moved with
  | reserveRepeated | rejected | reserved => exact settles.elim
  | releaseRepeated _ already | despatchRepeated _ already => simp [already]
  | released release payload held =>
      have phase := phase_withStatus .released (by rw [held]; simp)
      exact ne_of_eq_of_ne phase (by simp)
  | despatched despatch advice payload held =>
      have phase := phase_withStatus .consumed (by rw [held]; simp)
      exact ne_of_eq_of_ne phase (by simp)

/-- An order with a reservation that is not reserved any more stays so. -/
theorem Move.settled {stock stock' : OrderStock} {request : FulfillmentRequest}
    (moved : stock.Move request stock')
    (settled : stock.phase ≠ none ∧ stock.phase ≠ some .reserved) :
    stock'.phase ≠ none ∧ stock'.phase ≠ some .reserved := by
  rcases Option.ne_none_iff_exists'.mp settled.1 with ⟨status, isStatus⟩
  have left : status ≠ .reserved := by
    rintro rfl
    exact settled.2 isStatus
  rw [moved.phase_eq_of_settled isStatus left]
  simp [left]

end OrderStock

namespace FulfillmentSystem

open FulfillmentDb

/-- What the answers so far say of the order. -/
structure Answered (order : OrderNumber) (system : FulfillmentSystem) : Prop where
  decided : ∀ answer ∈ system.answers, ∀ request reply,
    answer.request = .stockReserve request → request.orderReference = order →
      answer.result = .ok reply → (system.db.orderStock order).IsDecided
  settled : ∀ answer ∈ system.answers, answer.request.Settles order →
    (system.db.orderStock order).phase ≠ none ∧
      (system.db.orderStock order).phase ≠ some .reserved

/-- What one answer says of the order, its stock being as it is. -/
structure Tells (order : OrderNumber) (stock : OrderStock) (answer : FulfillmentAnswer) :
    Prop where
  decided : ∀ request reply, answer.request = .stockReserve request →
    request.orderReference = order → answer.result = .ok reply → stock.IsDecided
  settled : answer.request.Settles order →
    stock.phase ≠ none ∧ stock.phase ≠ some .reserved

theorem answered_iff {order : OrderNumber} {system : FulfillmentSystem} :
    system.Answered order ↔
      ∀ answer ∈ system.answers, Tells order (system.db.orderStock order) answer := by
  constructor
  · rintro ⟨decided, settled⟩ answer answerMem
    exact ⟨decided answer answerMem, settled answer answerMem⟩
  · intro tells
    exact ⟨fun answer answerMem => (tells answer answerMem).decided,
      fun answer answerMem => (tells answer answerMem).settled⟩

/-- What an answer says stays true. -/
theorem Tells.move {order : OrderNumber} {stock stock' : OrderStock}
    {request : FulfillmentRequest} {answer : FulfillmentAnswer}
    (tells : Tells order stock answer) (moved : stock.Move request stock') :
    Tells order stock' answer where
  decided request reply isReserve ofOrder isOk :=
    (tells.decided request reply isReserve ofOrder isOk).move moved
  settled settles := moved.settled (tells.settled settles)

/-- No release or despatch of the order is asked before it has a reservation. -/
def SettlesReserved (order : OrderNumber) (system : FulfillmentSystem)
    (request : FulfillmentRequest) : Prop :=
  request.Settles order → (system.db.orderStock order).phase ≠ none

theorem answered_initial (catalogue : StockCatalogue) (order : OrderNumber) :
    (initial catalogue).Answered order where
  decided := List.forall_mem_nil _
  settled := List.forall_mem_nil _

section Refusals

variable {order : OrderNumber} {companyCode : String} {lines : List StockReserveLine}
  {system : FulfillmentSystem}

/-- The order's reservations are on stock rows of its company. -/
theorem Arbitrated.stocked (arbitrated : system.Arbitrated order companyCode lines) :
    ∀ id ∈ system.db.stockIdsOfOrder order, ∃ row ∈ system.db.stock,
      row.id = id ∧ row.companyCode = companyCode := by
  intro id idMem
  rcases List.mem_map.mp (List.mem_dedup.mp idMem) with ⟨row, rowMem, rfl⟩
  rcases arbitrated.sound.keyed.onStock row (mem_reservationsOf.mp rowMem).1 with
    ⟨stockRow, stockRowMem, onStock, company, _⟩
  exact ⟨stockRow, stockRowMem, onStock, company.trans (arbitrated.serves row rowMem).1⟩

theorem hasOn_iff (arbitrated : system.Arbitrated order companyCode lines)
    (status : ReservationStatus) :
    system.db.HasOn order (system.db.stockIdsOfOrder order) status ↔
      (system.db.orderStock order).phase = some status :=
  hasOn_iff_phase arbitrated.consistent.uniform status

/-- A release is refused only to a despatched order, and a despatch never to a
reserved one. -/
theorem not_reserved_of_refused (arbitrated : system.Arbitrated order companyCode lines)
    {call : FulfillmentCall} {error : FulfillmentError} (callMem : call ∈ system.calls)
    (settles : call.request.Settles order)
    (refused : transaction system.db call = some (.error error)) :
    (system.db.orderStock order).phase ≠ some .reserved := by
  intro reserved
  have counters := arbitrated.sound.counted.nonneg
  have stocked := arbitrated.stocked
  have distinct : (system.db.stockIdsOfOrder order).Nodup := List.nodup_dedup _
  cases call with
  | stockRelease request stockIds =>
      rcases arbitrated.ready _ callMem settles with ⟨rfl, some⟩
      cases settles
      have noneConsumed : ¬ system.db.HasOn request.orderReference
          (system.db.stockIdsOfOrder request.orderReference) .consumed := by
        rw [hasOn_iff arbitrated, reserved]
        simp
      rcases release_isOk arbitrated.sound.keyed counters distinct some stocked
        noneConsumed with ⟨result, isOk⟩
      simp [transaction, isOk] at refused
  | despatchCreate request stockIds =>
      rcases arbitrated.ready _ callMem settles with ⟨rfl, some⟩
      cases settles
      have noneReleased : ¬ system.db.HasOn request.orderReference
          (system.db.stockIdsOfOrder request.orderReference) .released := by
        rw [hasOn_iff arbitrated, reserved]
        simp
      have something := (hasOn_iff arbitrated .reserved).mpr reserved
      have noDespatch := arbitrated.consistent.despatches_eq_nil (by simp [reserved])
      have absent : system.db.findByOrderReference request.orderReference = none := by
        apply List.find?_eq_none.mpr
        intro despatch despatchMem isOf
        have listed : despatch ∈
            (system.db.orderStock request.orderReference).despatches :=
          List.mem_filter.mpr ⟨despatchMem, isOf⟩
        rw [noDespatch] at listed
        cases listed
      rcases createDespatch_isOk arbitrated.sound.keyed counters distinct stocked
        noneReleased something absent with ⟨result, isOk⟩
      simp [transaction, isOk] at refused
  | stockReserve | stockReplenish => exact settles.elim
  | despatchLooked => cases refused

end Refusals

/-- Every action keeps what the answers say, where a release or a despatch is
asked of a reservation only. -/
theorem Answered.step {order : OrderNumber} {companyCode : String}
    {lines : List StockReserveLine} {system system' : FulfillmentSystem}
    {action : FulfillmentAction} (answered : system.Answered order)
    (arbitrated : system.Arbitrated order companyCode lines)
    (asked : ∀ call ∈ system.calls, SettlesReserved order system call.request)
    (received : ∀ request, action = .receive request →
      SettlesReserved order system request)
    (stepped : FulfillmentSystem.step system action = some system') :
    system'.Answered order := by
  have unreserved : ∀ other, system.db.stockIdsOfOrder other = [] → other = order →
      (system.db.orderStock order).phase = none := by
    rintro other none rfl
    rw [OrderStock.phase_eq_none_iff]
    have nothing : system.db.reservationsOf other = [] := by
      simpa [stockIdsOfOrder] using none
    exact nothing
  rw [answered_iff] at answered ⊢
  cases step_change stepped with
  | received | located | aborted => exact answered
  | nothingToRelease request none =>
      refine List.forall_mem_append.mpr ⟨answered, List.forall_mem_singleton.mpr ⟨?_, ?_⟩⟩
      · rintro reserve reply ⟨⟩
      · intro settles
        exact absurd (unreserved _ none settles) (received _ rfl settles)
  | alreadyDespatched request despatch found =>
      refine List.forall_mem_append.mpr ⟨answered, List.forall_mem_singleton.mpr ⟨?_, ?_⟩⟩
      · rintro reserve reply ⟨⟩
      · intro settles
        refine ⟨received _ rfl settles, ?_⟩
        intro (reserved : (system.db.orderStock order).phase = some .reserved)
        have noDespatch := arbitrated.consistent.despatches_eq_nil (by simp [reserved])
        have isFound := List.find?_some found
        have isOf : despatch.orderReference = request.orderReference :=
          of_decide_eq_true isFound
        have listed : despatch ∈ (system.db.orderStock order).despatches :=
          List.mem_filter.mpr ⟨List.mem_of_find?_eq_some found,
            decide_eq_true (isOf.trans settles)⟩
        rw [noDespatch] at listed
        cases listed
  | nothingToDespatch index request looked none =>
      refine List.forall_mem_append.mpr ⟨answered, List.forall_mem_singleton.mpr ⟨?_, ?_⟩⟩
      · rintro reserve reply ⟨⟩
      · intro settles
        exact absurd (unreserved _ none settles)
          (asked _ (List.mem_of_getElem? looked) settles)
  | refused index call error found refused =>
      have callMem := List.mem_of_getElem? found
      refine List.forall_mem_append.mpr ⟨answered, List.forall_mem_singleton.mpr ⟨?_, ?_⟩⟩
      · rintro reserve reply _ _ ⟨⟩
      · intro settles
        have notReserved := not_reserved_of_refused arbitrated callMem settles refused
        exact ⟨asked call callMem settles, notReserved⟩
  | committed index call db reply found result =>
      have callMem := List.mem_of_getElem? found
      have transacted := orderStock_transaction arbitrated callMem result
      change ∀ answer ∈ system.answers ++ [⟨call.request, .ok reply⟩],
        Tells order (db.orderStock order) answer
      refine List.forall_mem_append.mpr ⟨?_, List.forall_mem_singleton.mpr ⟨?_, ?_⟩⟩
      · intro answer answerMem
        rcases transacted with ⟨_, same⟩ | ⟨_, moved⟩
        · rw [same]
          exact answered answer answerMem
        · exact (answered answer answerMem).move moved
      · intro reserve _ isReserve ofOrder _
        change call.request = .stockReserve reserve at isReserve
        rw [isReserve] at transacted
        rcases transacted with ⟨ofOther, _⟩ | ⟨_, moved⟩
        · exact absurd (congrArg some ofOrder) ofOther
        · exact OrderStock.isDecided_of_reserve moved
      · intro settles
        change call.request.Settles order at settles
        rcases transacted with ⟨ofOther, _⟩ | ⟨_, moved⟩
        · exact absurd (FulfillmentRequest.order_of_settles settles) ofOther
        · exact ⟨moved.phase_ne_none (asked call callMem settles),
            OrderStock.not_reserved_of_settles settles moved⟩

end FulfillmentSystem

end OrderToCash.Fulfillment
