import OrderToCash.Fulfillment.OrderView

/-!
# One-lock arbitration

Reservations, releases and despatches of one order, received in any number and
interleaved in any way with their reads outside the locks: the order's
reservations move together, at most one of release and despatch takes effect,
and each effect leaves exactly its own fact and row.
-/

namespace OrderToCash.Fulfillment

open OrderToCash.Contracts
open OrderToCash.Kernel
open OrderToCash.Transition

namespace OrderStock

/-! ## The invariant of one order -/

/-- What an order has left behind: its verdicts for a reservation, its releases,
its despatches and its despatch advices. -/
structure Traces where
  stockReserved : Nat
  stockReleased : Nat
  orderDespatched : Nat
  despatchRows : Nat
deriving DecidableEq, Repr

def traces (stock : OrderStock) : Traces :=
  { stockReserved := stock.emitted .stockReserved
    stockReleased := stock.emitted .stockReleased
    orderDespatched := stock.emitted .orderDespatched
    despatchRows := stock.despatches.length }

/-- What an order in a phase has left behind. -/
def tracesOf : Option ReservationStatus → Traces
  | none => ⟨0, 0, 0, 0⟩
  | some .reserved => ⟨1, 0, 0, 0⟩
  | some .released => ⟨1, 1, 0, 0⟩
  | some .consumed => ⟨1, 0, 1, 1⟩

/-- The order's reservations have one status, and its facts and despatch advices
are those of that status. -/
structure Consistent (stock : OrderStock) : Prop where
  uniform : stock.Uniform
  leftBehind : stock.traces = tracesOf stock.phase
  shipped : ∀ despatch ∈ stock.despatches, ∀ productCode,
    despatchedUnits despatch productCode = stock.reservationUnits productCode

theorem phase_eq_none_iff {stock : OrderStock} :
    stock.phase = none ↔ stock.reservations = [] := by
  simp [phase]

theorem phase_withStatus {stock : OrderStock} (status : ReservationStatus)
    (existing : stock.phase ≠ none) :
    (stock.withStatus status).phase = some status := by
  cases rows : stock.reservations with
  | nil => exact absurd (phase_eq_none_iff.mpr rows) existing
  | cons row rest => simp [phase, withStatus, rows]

theorem uniform_withStatus {stock : OrderStock} (status : ReservationStatus)
    (existing : stock.phase ≠ none) : (stock.withStatus status).Uniform := by
  intro row rowMem
  rw [phase_withStatus status existing]
  obtain ⟨before, _, rfl⟩ := List.mem_map.mp rowMem
  rfl

@[simp]
theorem stockIds_withStatus (stock : OrderStock) (status : ReservationStatus) :
    (stock.withStatus status).stockIds = stock.stockIds := by
  simp [stockIds, withStatus, Function.comp_def]

@[simp]
theorem reservationUnits_withStatus (stock : OrderStock)
    (status : ReservationStatus) (productCode : String) :
    (stock.withStatus status).reservationUnits productCode =
      stock.reservationUnits productCode := by
  simp only [reservationUnits, withStatus, List.map_map]
  induction stock.reservations with
  | nil => rfl
  | cons row rest inductionHypothesis =>
      by_cases here : row.reservation.productCode = productCode
      · simpa [here] using inductionHypothesis
      · simpa [here] using inductionHypothesis

theorem phase_of_allReserved {stock : OrderStock}
    (something : stock.reservations ≠ [])
    (allReserved : ∀ row ∈ stock.reservations,
      row.reservation.status = .reserved) :
    stock.phase = some .reserved := by
  cases rows : stock.reservations with
  | nil => exact absurd rows something
  | cons row rest =>
      have isReserved := allReserved row (rows ▸ List.mem_cons_self)
      simp [phase, rows, isReserved]

/-- Only a despatched order has a despatch advice. -/
theorem Consistent.despatches_eq_nil {stock : OrderStock}
    (consistent : stock.Consistent) (notDespatched : stock.phase ≠ some .consumed) :
    stock.despatches = [] := by
  have rows := congrArg Traces.despatchRows consistent.leftBehind
  refine List.length_eq_zero_iff.mp (rows.trans ?_)
  cases phase : stock.phase with
  | none => rfl
  | some status =>
      cases status with
      | reserved => rfl
      | released => rfl
      | consumed => exact absurd phase notDespatched

/-- Every move keeps the order consistent. -/
theorem Consistent.move {stock stock' : OrderStock}
    {request : FulfillmentRequest} (consistent : stock.Consistent)
    (move : stock.Move request stock') : stock'.Consistent := by
  have before := consistent.leftBehind
  cases move with
  | reserveRepeated request existing => exact consistent
  | rejected request payload first ofOrder =>
      refine ⟨consistent.uniform, ?_, consistent.shipped⟩
      rw [phase_eq_none_iff.mpr first] at before
      change _ = tracesOf stock.phase
      rw [phase_eq_none_iff.mpr first]
      simpa [traces, emitted, recorded, Fact.eventType] using before
  | reserved request payload rows first something allReserved forLines ofOrder =>
      have after : (OrderStock.recorded { stock with reservations := rows }
          (.stockReserved payload)).phase = some .reserved :=
        phase_of_allReserved something allReserved
      rw [phase_eq_none_iff.mpr first] at before
      refine ⟨fun row rowMem => ?_, ?_, ?_⟩
      · rw [after, allReserved row rowMem]
      · rw [after]
        simpa [traces, tracesOf, emitted, recorded, Fact.eventType] using before
      · have noDespatch : stock.despatches = [] :=
          consistent.despatches_eq_nil (by simp [phase_eq_none_iff.mpr first])
        intro despatch despatchMem
        rw [recorded, noDespatch] at despatchMem
        cases despatchMem
  | releaseRepeated request already => exact consistent
  | released request payload held ofOrder sameReason =>
      have existing : stock.phase ≠ none := by simp [held]
      rw [held] at before
      refine ⟨uniform_withStatus .released existing, ?_, ?_⟩
      · change _ = tracesOf (stock.withStatus .released).phase
        rw [phase_withStatus .released existing]
        simpa [traces, tracesOf, emitted, recorded, withStatus,
          Fact.eventType] using before
      · have noDespatch : stock.despatches = [] :=
          consistent.despatches_eq_nil (by simp [held])
        intro despatch despatchMem
        rw [recorded, withStatus, noDespatch] at despatchMem
        cases despatchMem
  | despatchRepeated request already => exact consistent
  | despatched request despatch payload held noDespatch ofOrder units =>
      have existing : stock.phase ≠ none := by simp [held]
      rw [held] at before
      refine ⟨uniform_withStatus .consumed existing, ?_, ?_⟩
      · change _ = tracesOf (stock.withStatus .consumed).phase
        rw [phase_withStatus .consumed existing]
        simpa [traces, tracesOf, emitted, recorded, withStatus,
          Fact.eventType] using before
      · intro other otherMem productCode
        change _ = (stock.withStatus .consumed).reservationUnits productCode
        rw [reservationUnits_withStatus, ← units productCode]
        simp only [recorded, noDespatch, List.nil_append,
          List.mem_singleton] at otherMem
        rw [otherMem]

/-- A move never changes which stock rows an order with reservations is on. -/
theorem Move.stockIds_eq {stock stock' : OrderStock}
    {request : FulfillmentRequest} (move : stock.Move request stock')
    (existing : stock.stockIds ≠ []) : stock'.stockIds = stock.stockIds := by
  cases move with
  | reserveRepeated | rejected | releaseRepeated | despatchRepeated => rfl
  | reserved request payload rows first =>
      exact absurd (by simp [stockIds, first]) existing
  | released => exact stockIds_withStatus stock .released
  | despatched => exact stockIds_withStatus stock .consumed

/-- An order that is released or despatched stays so. -/
theorem Move.phase_eq_of_settled {stock stock' : OrderStock}
    {request : FulfillmentRequest} {status : ReservationStatus}
    (move : stock.Move request stock') (settled : stock.phase = some status)
    (left : status ≠ .reserved) : stock'.phase = some status := by
  cases move with
  | reserveRepeated | rejected | releaseRepeated | despatchRepeated =>
      exact settled
  | reserved request payload rows first =>
      rw [phase_eq_none_iff.mpr first] at settled
      cases settled
  | released request payload held =>
      rw [held] at settled
      exact absurd (Option.some.inj settled).symm left
  | despatched request despatch payload held =>
      rw [held] at settled
      exact absurd (Option.some.inj settled).symm left

end OrderStock

namespace FulfillmentSystem

open FulfillmentDb

/-! ## The invariant of the service -/

/-- The reservation request an action receives. -/
def receivedReserve? : FulfillmentAction → Option StockReserveRequest
  | .receive (.stockReserve request) => some request
  | _ => none

/-- All reserve requests of the order carry the order's lines, for the order's
company. -/
def SameReserveRequest (order : OrderNumber) (companyCode : String)
    (lines : List StockReserveLine) : Guard FulfillmentSystem FulfillmentAction :=
  fun _ action => ∀ request ∈ receivedReserve? action,
    request.orderReference = order →
      request.companyCode = companyCode ∧ request.lines = lines

instance (order : OrderNumber) (companyCode : String)
    (lines : List StockReserveLine) (system : FulfillmentSystem)
    (action : FulfillmentAction) :
    Decidable (SameReserveRequest order companyCode lines system action) :=
  inferInstanceAs (Decidable (∀ request ∈ receivedReserve? action, _ → _))

/-- The order is consistent, every call under way agrees with the database, and
no despatch request met consumed reservations without a despatch advice. -/
structure Arbitrated (order : OrderNumber) (companyCode : String)
    (lines : List StockReserveLine) (system : FulfillmentSystem) : Prop where
  sound : system.db.Sound
  serves : system.db.ServesOnly order companyCode lines
  consistent : (system.db.orderStock order).Consistent
  ready : ∀ call ∈ system.calls, call.Ready system.db order companyCode lines
  explained : ∀ answer ∈ system.answers, ∀ request error,
    answer.request = .despatchCreate request → answer.result = .error error →
      error ≠ .consumedWithoutDespatch order

theorem arbitrated_initial (catalogue : StockCatalogue) (order : OrderNumber)
    (companyCode : String) (lines : List StockReserveLine) :
    (initial catalogue).Arbitrated order companyCode lines where
  sound := sound_initial catalogue
  serves := by
    intro row rowMem
    cases rowMem
  consistent :=
    { uniform := by
        intro row rowMem
        cases rowMem
      leftBehind := rfl
      shipped := by
        intro despatch despatchMem
        cases despatchMem }
  ready := by
    intro call callMem
    cases callMem
  explained := by
    intro answer answerMem
    cases answerMem

/-- What a transaction that commits does to the order. -/
theorem orderStock_transaction {system : FulfillmentSystem}
    {call : FulfillmentCall} {db : FulfillmentDb} {reply : FulfillmentReply}
    {order : OrderNumber} {companyCode : String} {lines : List StockReserveLine}
    (arbitrated : system.Arbitrated order companyCode lines)
    (callMem : call ∈ system.calls)
    (result : transaction system.db call = some (.ok (db, reply))) :
    (call.request.order? ≠ some order ∧
        db.orderStock order = system.db.orderStock order) ∨
      (call.request.order? = some order ∧
        (system.db.orderStock order).Move call.request (db.orderStock order)) := by
  by_cases ofOrder : call.request.order? = some order
  · exact Or.inr ⟨ofOrder, move_of_order arbitrated.sound.keyed
      arbitrated.consistent.uniform arbitrated.serves
      (arbitrated.ready call callMem) result ofOrder⟩
  · exact Or.inl ⟨ofOrder,
      orderStock_of_other arbitrated.sound.keyed result ofOrder⟩

/-- What a call has read of the order stays true while the order's stock rows
stay the same. -/
theorem ready_of_stockIds {db db' : FulfillmentDb} {order : OrderNumber}
    {companyCode : String} {lines : List StockReserveLine}
    {call : FulfillmentCall} (ready : call.Ready db order companyCode lines)
    (same : db.stockIdsOfOrder order ≠ [] →
      db'.stockIdsOfOrder order = db.stockIdsOfOrder order) :
    call.Ready db' order companyCode lines := by
  cases call with
  | stockReserve request => exact ready
  | stockRelease request stockIds =>
      intro ofOrder
      obtain ⟨read, located⟩ := ready ofOrder
      exact ⟨read.trans (same (read ▸ located)).symm, located⟩
  | despatchLooked request => trivial
  | despatchCreate request stockIds =>
      intro ofOrder
      obtain ⟨read, located⟩ := ready ofOrder
      exact ⟨read.trans (same (read ▸ located)).symm, located⟩
  | stockReplenish request => trivial

/-- The lines an order is served by stay its request's through a move. -/
theorem serves_of_move {db db' : FulfillmentDb} {order : OrderNumber}
    {companyCode : String} {lines : List StockReserveLine}
    {call : FulfillmentCall} (serves : db.ServesOnly order companyCode lines)
    (ready : call.Ready db order companyCode lines)
    (ofOrder : call.request.order? = some order)
    (move : (db.orderStock order).Move call.request (db'.orderStock order)) :
    db'.ServesOnly order companyCode lines := by
  have settled : ∀ status,
      (db'.orderStock order).reservations =
        ((db.orderStock order).withStatus status).reservations →
      db'.ServesOnly order companyCode lines := by
    intro status same row rowMem
    have rowMem : row ∈ (db'.orderStock order).reservations := rowMem
    rw [same] at rowMem
    obtain ⟨before, beforeMem, rfl⟩ := List.mem_map.mp rowMem
    exact serves before beforeMem
  have kept : (db'.orderStock order).reservations =
      (db.orderStock order).reservations →
      db'.ServesOnly order companyCode lines := by
    intro same row rowMem
    have rowMem : row ∈ (db'.orderStock order).reservations := rowMem
    rw [same] at rowMem
    exact serves row rowMem
  generalize after : db'.orderStock order = stock' at move settled kept
  cases call with
  | stockReserve request =>
      cases move with
      | reserveRepeated => exact kept rfl
      | rejected => exact kept rfl
      | reserved _ payload rows first something allReserved forLines payloadOf =>
          obtain ⟨rfl, rfl⟩ := ready (Option.some.inj ofOrder)
          intro row rowMem
          have rowMem : row ∈ (db'.orderStock order).reservations := rowMem
          rw [after] at rowMem
          exact forLines row rowMem
  | stockRelease request stockIds =>
      cases move with
      | releaseRepeated => exact kept rfl
      | released => exact settled .released rfl
  | despatchLooked request =>
      cases move with
      | despatchRepeated => exact kept rfl
      | despatched => exact settled .consumed rfl
  | despatchCreate request stockIds =>
      cases move with
      | despatchRepeated => exact kept rfl
      | despatched => exact settled .consumed rfl
  | stockReplenish request => cases ofOrder

/-- A committed transaction keeps the arbitration of the order. -/
theorem Arbitrated.commit {system : FulfillmentSystem} {call : FulfillmentCall}
    {db : FulfillmentDb} {reply : FulfillmentReply} {order : OrderNumber}
    {companyCode : String} {lines : List StockReserveLine} {index : Nat}
    (arbitrated : system.Arbitrated order companyCode lines)
    (callMem : call ∈ system.calls)
    (result : transaction system.db call = some (.ok (db, reply))) :
    ({ system.finished index with db := db }.answer call.request
      (.ok reply)).Arbitrated order companyCode lines := by
  have explained : ∀ answer ∈
      system.answers ++ [⟨call.request, .ok reply⟩], ∀ request error,
      answer.request = .despatchCreate request →
      answer.result = .error error → error ≠ .consumedWithoutDespatch order := by
    intro answer answerMem request error ofRequest failed
    rcases List.mem_append.mp answerMem with before | new
    · exact arbitrated.explained answer before request error ofRequest failed
    · rw [List.mem_singleton.mp new] at failed
      cases failed
  have sound := sound_transaction arbitrated.sound result
  rcases orderStock_transaction arbitrated callMem result with
    ⟨_, same⟩ | ⟨ofOrder, move⟩
  · have sameReservations : db.reservationsOf order =
        system.db.reservationsOf order :=
      congrArg OrderStock.reservations same
    exact
      { sound := sound
        serves := by
          intro row rowMem
          rw [FulfillmentSystem.answer, sameReservations] at rowMem
          exact arbitrated.serves row rowMem
        consistent := by
          change (db.orderStock order).Consistent
          rw [same]
          exact arbitrated.consistent
        ready := by
          intro other otherMem
          refine ready_of_stockIds
            (arbitrated.ready other (List.mem_of_mem_eraseIdx otherMem)) ?_
          intro _
          change (db.reservationsOf order |>.map _ |>.dedup) = _
          rw [sameReservations]
          rfl
        explained := explained }
  · exact
      { sound := sound
        serves := serves_of_move arbitrated.serves (arbitrated.ready call callMem)
          ofOrder move
        consistent := arbitrated.consistent.move move
        ready := by
          intro other otherMem
          exact ready_of_stockIds
            (arbitrated.ready other (List.mem_of_mem_eraseIdx otherMem))
            fun existing => move.stockIds_eq existing
        explained := explained }

/-- Growing the calls and the answers keeps the arbitration, when the new ones
do. -/
theorem Arbitrated.grow {system system' : FulfillmentSystem}
    {order : OrderNumber} {companyCode : String} {lines : List StockReserveLine}
    (arbitrated : system.Arbitrated order companyCode lines)
    (sameDb : system'.db = system.db)
    (calls : ∀ call ∈ system'.calls, call ∈ system.calls ∨
      call.Ready system.db order companyCode lines)
    (answers : ∀ answer ∈ system'.answers, answer ∈ system.answers ∨
      ∀ request error, answer.request = .despatchCreate request →
        answer.result = .error error → error ≠ .consumedWithoutDespatch order) :
    system'.Arbitrated order companyCode lines where
  sound := sameDb ▸ arbitrated.sound
  serves := sameDb ▸ arbitrated.serves
  consistent := sameDb ▸ arbitrated.consistent
  ready := by
    intro call callMem
    rw [sameDb]
    rcases calls call callMem with before | new
    · exact arbitrated.ready call before
    · exact new
  explained := by
    intro answer answerMem
    rcases answers answer answerMem with before | new
    · exact arbitrated.explained answer before
    · exact new

/-- Consumed reservations of the order always have a despatch advice, so a
despatch of the order is never refused for lack of one. -/
theorem Arbitrated.not_consumedWithoutDespatch {system : FulfillmentSystem}
    {order : OrderNumber} {companyCode : String} {lines : List StockReserveLine}
    {request : DespatchCreateRequest} {stockIds : List UniqueId}
    (arbitrated : system.Arbitrated order companyCode lines)
    (callMem : FulfillmentCall.despatchCreate request stockIds ∈ system.calls)
    (failed : system.db.createDespatch request stockIds =
      .error (.consumedWithoutDespatch order)) : False := by
  obtain ⟨ofRequest, consumed, absent⟩ :=
    createDespatch_consumedWithoutDespatch arbitrated.sound.keyed failed
  subst ofRequest
  obtain ⟨rfl, _⟩ := arbitrated.ready _ callMem rfl
  rw [hasOn_iff_phase arbitrated.consistent.uniform] at consumed
  have rows := congrArg OrderStock.Traces.despatchRows
    arbitrated.consistent.leftBehind
  have none : (system.db.orderStock request.orderReference).despatches = [] := by
    rw [findByOrderReference, List.find?_eq_none] at absent
    exact List.filter_eq_nil_iff.mpr absent
  rw [consumed] at rows
  simp [OrderStock.traces, OrderStock.tracesOf, none] at rows

/-- Every action keeps the arbitration of the order. -/
theorem arbitrated_step {order : OrderNumber} {companyCode : String}
    {lines : List StockReserveLine} {system system' : FulfillmentSystem}
    {action : FulfillmentAction}
    (arbitrated : system.Arbitrated order companyCode lines)
    (sameRequest : SameReserveRequest order companyCode lines system action)
    (stepped : step system action = some system') :
    system'.Arbitrated order companyCode lines := by
  cases step_change stepped with
  | received request call serves read unlocated =>
      refine arbitrated.grow rfl (fun other otherMem => ?_)
        fun answer answerMem => Or.inl answerMem
      rcases List.mem_append.mp otherMem with before | new
      · exact Or.inl before
      · rw [List.mem_singleton] at new
        subst new
        refine Or.inr ?_
        cases other with
        | stockReserve reserve => exact sameRequest reserve (serves ▸ rfl)
        | stockRelease release stockIds =>
            intro ofOrder
            obtain ⟨located, some⟩ := read release stockIds rfl
            exact ⟨ofOrder ▸ located, some⟩
        | despatchLooked despatch => trivial
        | despatchCreate despatch stockIds =>
            exact absurd rfl (unlocated despatch stockIds)
        | stockReplenish replenish => trivial
  | nothingToRelease request none =>
      refine arbitrated.grow rfl (fun other otherMem => Or.inl otherMem)
        fun answer answerMem => ?_
      rcases List.mem_append.mp answerMem with before | new
      · exact Or.inl before
      · rw [List.mem_singleton] at new
        subst new
        exact Or.inr fun _ _ ofRequest => by cases ofRequest
  | alreadyDespatched request despatch found =>
      refine arbitrated.grow rfl (fun other otherMem => Or.inl otherMem)
        fun answer answerMem => ?_
      rcases List.mem_append.mp answerMem with before | new
      · exact Or.inl before
      · rw [List.mem_singleton] at new
        subst new
        exact Or.inr fun _ _ _ failed => by cases failed
  | nothingToDespatch index request looked none =>
      refine arbitrated.grow rfl
        (fun other otherMem => Or.inl (List.mem_of_mem_eraseIdx otherMem))
        fun answer answerMem => ?_
      rcases List.mem_append.mp answerMem with before | new
      · exact Or.inl before
      · rw [List.mem_singleton] at new
        subst new
        refine Or.inr fun _ _ _ failed => ?_
        cases failed
        simp
  | located index request looked some =>
      refine arbitrated.grow rfl (fun other otherMem => ?_)
        fun answer answerMem => Or.inl answerMem
      rcases List.mem_append.mp otherMem with before | new
      · exact Or.inl (List.mem_of_mem_eraseIdx before)
      · rw [List.mem_singleton] at new
        subst new
        exact Or.inr fun ofOrder => ofOrder ▸ ⟨rfl, some⟩
  | committed index call db reply found result =>
      exact arbitrated.commit (List.mem_of_getElem? found) result
  | refused index call error found result =>
      refine arbitrated.grow rfl
        (fun other otherMem => Or.inl (List.mem_of_mem_eraseIdx otherMem))
        fun answer answerMem => ?_
      rcases List.mem_append.mp answerMem with before | new
      · exact Or.inl before
      · rw [List.mem_singleton] at new
        subst new
        refine Or.inr fun request error' ofRequest failed reported => ?_
        cases failed
        subst reported
        cases call with
        | despatchCreate despatch stockIds =>
            exact arbitrated.not_consumedWithoutDespatch
              (List.mem_of_getElem? found) (Option.some.inj result)
        | despatchLooked despatch => cases result
        | stockReserve reserve => cases ofRequest
        | stockRelease release stockIds => cases ofRequest
        | stockReplenish replenish => cases ofRequest
  | aborted index =>
      exact arbitrated.grow rfl
        (fun other otherMem => Or.inl (List.mem_of_mem_eraseIdx otherMem))
        fun answer answerMem => Or.inl answerMem

theorem arbitrated_of_reachable {catalogue : StockCatalogue}
    {order : OrderNumber} {companyCode : String} {lines : List StockReserveLine}
    {system : FulfillmentSystem}
    (reached : Reachable step (SameReserveRequest order companyCode lines)
      (initial catalogue) system) :
    system.Arbitrated order companyCode lines :=
  reached.invariant (arbitrated_initial catalogue order companyCode lines)
    fun _ _ _ arbitrated sameRequest stepped =>
      arbitrated_step arbitrated sameRequest stepped

/-- An action leaves the order as it is, or it commits a request of the order,
which makes one of the moves. -/
theorem orderStock_step {order : OrderNumber} {companyCode : String}
    {lines : List StockReserveLine} {system system' : FulfillmentSystem}
    {action : FulfillmentAction}
    (arbitrated : system.Arbitrated order companyCode lines)
    (stepped : step system action = some system') :
    system'.db.orderStock order = system.db.orderStock order ∨
      ∃ index call, action = .run index ∧ system.calls[index]? = some call ∧
        call.request.order? = some order ∧
        (system.db.orderStock order).Move call.request
          (system'.db.orderStock order) := by
  cases step_change stepped with
  | committed index call db reply found result =>
      rcases orderStock_transaction arbitrated (List.mem_of_getElem? found)
        result with ⟨_, same⟩ | ⟨ofOrder, move⟩
      · exact Or.inl same
      · exact Or.inr ⟨index, call, rfl, found, ofOrder, move⟩
  | received => exact Or.inl rfl
  | nothingToRelease => exact Or.inl rfl
  | alreadyDespatched => exact Or.inl rfl
  | nothingToDespatch => exact Or.inl rfl
  | located => exact Or.inl rfl
  | refused => exact Or.inl rfl
  | aborted => exact Or.inl rfl

/-- An order that is released or despatched stays so over every run. -/
theorem phase_eq_of_reachable {order : OrderNumber} {companyCode : String}
    {lines : List StockReserveLine} {system later : FulfillmentSystem}
    {status : ReservationStatus}
    (arbitrated : system.Arbitrated order companyCode lines)
    (settled : (system.db.orderStock order).phase = some status)
    (left : status ≠ .reserved)
    (continued : Reachable step (SameReserveRequest order companyCode lines)
      system later) :
    (later.db.orderStock order).phase = some status := by
  induction continued with
  | refl => exact settled
  | tail path sameRequest stepped inductionHypothesis =>
      have here := path.invariant arbitrated
        fun _ _ _ kept sameRequest stepped =>
          arbitrated_step kept sameRequest stepped
      rcases orderStock_step here stepped with
        same | ⟨index, call, _, _, _, move⟩
      · rw [same]
        exact inductionHypothesis
      · exact move.phase_eq_of_settled inductionHypothesis left

/-! ## The arbitration -/

/-- The order has a reservation with the status. -/
def HasReservation (system : FulfillmentSystem) (order : OrderNumber)
    (status : ReservationStatus) : Prop :=
  ∃ row ∈ system.db.reservations,
    row.IsOf order ∧ row.reservation.status = status

/-- The facts of a type about the order. -/
def emitted (system : FulfillmentSystem) (order : OrderNumber)
    (eventType : EventType) : Nat :=
  (system.db.outbox.filter (·.orderReference = order)).countP
    (·.eventType = eventType)

/-- The despatch advices of the order. -/
def despatchesOf (system : FulfillmentSystem) (order : OrderNumber) :
    List DespatchAdvice :=
  system.db.despatches.filter (·.orderReference = order)

/-- What holds of an order in a state, and of every state after it. -/
structure OneLockArbitration (order : OrderNumber)
    (system later : FulfillmentSystem) : Prop where
  common : ∀ row ∈ system.db.reservations, ∀ other ∈ system.db.reservations,
    row.IsOf order → other.IsOf order →
      row.reservation.status = other.reservation.status
  releaseKept : system.HasReservation order .released →
    ∀ row ∈ later.db.reservations, row.IsOf order →
      row.reservation.status = .released
  despatchKept : system.HasReservation order .consumed →
    ∀ row ∈ later.db.reservations, row.IsOf order →
      row.reservation.status = .consumed
  oneEffect : system.emitted order .stockReleased +
    system.emitted order .orderDespatched ≤ 1
  oneDespatch : (system.despatchesOf order).length ≤ 1
  releasedFact : 0 < system.emitted order .stockReleased ↔
    system.HasReservation order .released
  despatchedFact : 0 < system.emitted order .orderDespatched ↔
    system.HasReservation order .consumed
  despatchRow : system.despatchesOf order ≠ [] ↔
    system.HasReservation order .consumed
  shipped : ∀ despatch ∈ system.despatchesOf order, ∀ productCode,
    OrderStock.despatchedUnits despatch productCode =
      unitsOf (((system.db.reservations.filter (·.IsOf order)).map
        ReservationRow.reservation).filter (·.productCode = productCode))
  despatchRecorded : ∀ answer ∈ system.answers, ∀ request error,
    answer.request = .despatchCreate request → answer.result = .error error →
      error ≠ .consumedWithoutDespatch order

theorem hasReservation_iff_phase {system : FulfillmentSystem}
    {order : OrderNumber} {status : ReservationStatus}
    (uniform : (system.db.orderStock order).Uniform) :
    system.HasReservation order status ↔
      (system.db.orderStock order).phase = some status := by
  rw [← hasOn_iff_phase uniform]
  constructor
  · rintro ⟨row, stored, ofOrder, hasStatus⟩
    exact ⟨row, stored, ofOrder,
      mem_stockIdsOfOrder (mem_reservationsOf.mpr ⟨stored, ofOrder⟩), hasStatus⟩
  · rintro ⟨row, stored, ofOrder, _, hasStatus⟩
    exact ⟨row, stored, ofOrder, hasStatus⟩

/-- However reserve, release and despatch requests of an order interleave, with
each other and with any requests of other orders, the one lock arbitrates. -/
theorem one_lock_arbitration (catalogue : StockCatalogue) (order : OrderNumber)
    (companyCode : String) (lines : List StockReserveLine)
    {system later : FulfillmentSystem}
    (reached : Reachable step (SameReserveRequest order companyCode lines)
      (initial catalogue) system)
    (continued : Reachable step (SameReserveRequest order companyCode lines)
      system later) :
    OneLockArbitration order system later := by
  have arbitrated := arbitrated_of_reachable reached
  have arbitratedLater := arbitrated_of_reachable (reached.trans continued)
  have uniform := arbitrated.consistent.uniform
  have leftBehind := arbitrated.consistent.leftBehind
  have statusOf : ∀ row ∈ system.db.reservations, row.IsOf order →
      (system.db.orderStock order).phase = some row.reservation.status :=
    fun row stored ofOrder => uniform row (mem_reservationsOf.mpr ⟨stored, ofOrder⟩)
  have keeps : ∀ status, status ≠ .reserved → system.HasReservation order status →
      ∀ row ∈ later.db.reservations, row.IsOf order →
        row.reservation.status = status := by
    intro status left has row stored ofOrder
    have phase := (hasReservation_iff_phase uniform).mp has
    have phaseLater := phase_eq_of_reachable arbitrated phase left continued
    have here := arbitratedLater.consistent.uniform row
      (mem_reservationsOf.mpr ⟨stored, ofOrder⟩)
    exact Option.some.inj (here.symm.trans phaseLater)
  have released : system.emitted order .stockReleased =
      (system.db.orderStock order).traces.stockReleased := rfl
  have despatched : system.emitted order .orderDespatched =
      (system.db.orderStock order).traces.orderDespatched := rfl
  have despatches : (system.despatchesOf order).length =
      (system.db.orderStock order).traces.despatchRows := rfl
  refine
    { common := ?_
      releaseKept := keeps .released (by decide)
      despatchKept := keeps .consumed (by decide)
      oneEffect := ?_
      oneDespatch := ?_
      releasedFact := ?_
      despatchedFact := ?_
      despatchRow := ?_
      shipped := arbitrated.consistent.shipped
      despatchRecorded := arbitrated.explained }
  · intro row stored other storedOther ofOrder otherOfOrder
    exact Option.some.inj ((statusOf row stored ofOrder).symm.trans
      (statusOf other storedOther otherOfOrder))
  · rw [released, despatched, leftBehind]
    rcases (system.db.orderStock order).phase with _ | (_ | _ | _) <;> decide
  · rw [despatches, leftBehind]
    rcases (system.db.orderStock order).phase with _ | (_ | _ | _) <;> decide
  · rw [released, leftBehind, hasReservation_iff_phase uniform]
    rcases (system.db.orderStock order).phase with _ | (_ | _ | _) <;> decide
  · rw [despatched, leftBehind, hasReservation_iff_phase uniform]
    rcases (system.db.orderStock order).phase with _ | (_ | _ | _) <;> decide
  · rw [← List.length_pos_iff_ne_nil, despatches, leftBehind,
      hasReservation_iff_phase uniform]
    rcases (system.db.orderStock order).phase with _ | (_ | _ | _) <;> decide

/-! ## A run of it -/

/-- Two products of one company. -/
def twoProducts : StockCatalogue where
  rows :=
    [ ⟨⟨100⟩, "COM-0001", "PRD-0001", 10, 0, 2⟩,
      ⟨⟨101⟩, "COM-0001", "PRD-0002", 5, 0, 1⟩ ]
  ids := by decide
  keys := by decide
  unreserved := by decide

def twoLines : List StockReserveLine :=
  [⟨"PRD-0001", 3⟩, ⟨"PRD-0002", 2⟩]

/-- A release and a despatch read the same reservations; the despatch runs
first, the release is refused and a repeat of it too. -/
def releaseAgainstDespatch : List FulfillmentAction :=
  [ .receive (.stockReserve ⟨⟨1⟩, "RET-0001", "COM-0001", twoLines⟩),
    .run 0,
    .receive (.stockRelease ⟨⟨1⟩, .orderCancelled⟩),
    .receive (.despatchCreate ⟨⟨1⟩⟩),
    .locate 1,
    .run 1,
    .run 0,
    .receive (.stockRelease ⟨⟨1⟩, .orderCancelled⟩) ]

/-- A release and a despatch that read the same reservations are arbitrated. -/
theorem release_against_despatch_arbitrated :
    ∃ system later,
      execute step (fun state action =>
          decide (SameReserveRequest ⟨1⟩ "COM-0001" twoLines state action))
        (initial twoProducts) (releaseAgainstDespatch.take 5) = some system ∧
      execute step (fun state action =>
          decide (SameReserveRequest ⟨1⟩ "COM-0001" twoLines state action))
        system (releaseAgainstDespatch.drop 5) = some later ∧
      OneLockArbitration ⟨1⟩ system later := by
  have runs : ((execute step (fun state action =>
      decide (SameReserveRequest ⟨1⟩ "COM-0001" twoLines state action))
        (initial twoProducts) (releaseAgainstDespatch.take 5)).bind fun system =>
      execute step (fun state action =>
        decide (SameReserveRequest ⟨1⟩ "COM-0001" twoLines state action))
          system (releaseAgainstDespatch.drop 5)).isSome = true := by
    decide
  obtain ⟨later, ran⟩ := Option.isSome_iff_exists.mp runs
  obtain ⟨system, first, second⟩ := Option.bind_eq_some_iff.mp ran
  exact ⟨system, later, first, second,
    one_lock_arbitration twoProducts ⟨1⟩ "COM-0001" twoLines
      (reachable_of_execute first) (reachable_of_execute second)⟩

end FulfillmentSystem

end OrderToCash.Fulfillment
