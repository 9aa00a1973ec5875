import OrderToCash.Fulfillment.Arbitration

/-!
# The balance of the stock rows

Every stock row balances over every run: its counter is the reserved part of
the reservations on it, of all orders, and its units are the ones it started
with, plus what replenishments added, less what despatches consumed.
-/

namespace OrderToCash.Fulfillment

open OrderToCash.Contracts
open OrderToCash.Kernel
open OrderToCash.Transition

namespace FulfillmentDb

/-- The reservation was consumed by a despatch. -/
def IsConsumed (row : ReservationRow) : Bool :=
  row.reservation.status = .consumed

/-- The reservation was consumed from a stock row. -/
def IsConsumedOn (stockId : UniqueId) (row : ReservationRow) : Bool :=
  decide (row.stockId = stockId) && IsConsumed row

/-- The reservation is of a product and was consumed. -/
def IsConsumedOf (productCode : String) (row : ReservationRow) : Bool :=
  decide (row.reservation.productCode = productCode) && IsConsumed row

/-- The units of a product on all despatch advices. -/
def despatchedUnits (db : FulfillmentDb) (productCode : String) : Int :=
  (db.despatches.map fun despatch =>
    OrderStock.despatchedUnits despatch productCode).sum

/-! ## What a settlement consumes -/

theorem unitsWhere_congr {first second : ReservationRow → Bool}
    {rows : List ReservationRow} (same : ∀ row ∈ rows, first row = second row) :
    unitsWhere first rows = unitsWhere second rows := by
  rw [unitsWhere, unitsWhere, List.filter_congr same]

theorem unitsWhere_eq_zero {selected : ReservationRow → Bool}
    {rows : List ReservationRow} (none : ∀ row ∈ rows, selected row = false) :
    unitsWhere selected rows = 0 := by
  have empty : rows.filter selected = [] :=
    List.filter_eq_nil_iff.mpr fun row rowMem isSelected => by
      simp [none row rowMem] at isSelected
  rw [unitsWhere, empty]
  rfl

/-- What a settlement does to one reservation. -/
theorem settleRow_cases (order : OrderNumber) (selected : UniqueId → Bool)
    (status : ReservationStatus) (row : ReservationRow) :
    (selected row.stockId && row.reservation.IsReservedBy order) = true ∧
        settleRow order selected status row =
          { row with reservation := { row.reservation with status := status } } ∨
      (selected row.stockId && row.reservation.IsReservedBy order) = false ∧
        settleRow order selected status row = row := by
  by_cases isSelected : selected row.stockId = true
  · by_cases reserved : row.reservation.IsReservedBy order = true
    · apply Or.inl
      rw [settleRow, if_pos isSelected,
        Reservation.moveTo_of_isReservedBy status reserved]
      simp [isSelected, reserved]
    · apply Or.inr
      rw [settleRow, if_pos isSelected, Reservation.moveTo_of_not_isReservedBy
        status (Bool.not_eq_true _ ▸ reserved)]
      simp [reserved]
  · apply Or.inr
    rw [settleRow, if_neg isSelected]
    simp [isSelected]

/-- A despatch consumes the order's reserved reservations on its rows, wherever
one looks. -/
theorem unitsWhere_consumed (order : OrderNumber) (selected : UniqueId → Bool)
    (place : ReservationRow → Bool)
    (fixed : ∀ row, place (settleRow order selected .consumed row) = place row)
    (rows : List ReservationRow) :
    unitsWhere (fun row => place row && IsConsumed row)
        (rows.map (settleRow order selected .consumed)) =
      unitsWhere (fun row => place row && IsConsumed row) rows +
        unitsWhere (fun row => place row &&
          (selected row.stockId && row.reservation.IsReservedBy order)) rows := by
  induction rows with
  | nil => rfl
  | cons row rest inductionHypothesis =>
      rw [List.map_cons, unitsWhere_cons, unitsWhere_cons, unitsWhere_cons,
        inductionHypothesis, fixed row]
      rcases settleRow_cases order selected .consumed row with
        ⟨moves, settled⟩ | ⟨stays, settled⟩
      · have reserved : row.reservation.status = .reserved := by
          rw [Bool.and_eq_true] at moves
          exact (Reservation.isReservedBy_iff.mp moves.2).2
        have notConsumed : IsConsumed row = false := by
          simp [IsConsumed, reserved]
        have consumed : IsConsumed (settleRow order selected .consumed row) =
            true := by
          rw [settled]
          rfl
        rw [consumed, notConsumed, moves, settled]
        simp only [Bool.and_true, Bool.and_false, Bool.false_eq_true, if_false]
        omega
      · rw [settled, stays]
        simp only [Bool.and_false, Bool.false_eq_true, if_false]
        omega

/-- A release consumes nothing. -/
theorem unitsWhere_consumed_of_release (order : OrderNumber)
    (selected : UniqueId → Bool) (place : ReservationRow → Bool)
    (fixed : ∀ row, place (settleRow order selected .released row) = place row)
    (rows : List ReservationRow) :
    unitsWhere (fun row => place row && IsConsumed row)
        (rows.map (settleRow order selected .released)) =
      unitsWhere (fun row => place row && IsConsumed row) rows := by
  induction rows with
  | nil => rfl
  | cons row rest inductionHypothesis =>
      rw [List.map_cons, unitsWhere_cons, unitsWhere_cons, inductionHypothesis,
        fixed row]
      rcases settleRow_cases order selected .released row with
        ⟨moves, settled⟩ | ⟨stays, settled⟩
      · have reserved : row.reservation.status = .reserved := by
          rw [Bool.and_eq_true] at moves
          exact (Reservation.isReservedBy_iff.mp moves.2).2
        simp [settled, IsConsumed, reserved]
      · rw [settled]

/-- Fresh reservations are not consumed. -/
theorem unitsWhere_consumed_of_reserve (db : FulfillmentDb)
    (request : StockReserveRequest) (place : ReservationRow → Bool) :
    unitsWhere (fun row => place row && IsConsumed row)
        (db.afterReserve request).reservations =
      unitsWhere (fun row => place row && IsConsumed row) db.reservations := by
  have fresh : unitsWhere (fun row => place row && IsConsumed row)
      (db.freshRows request) = 0 := by
    apply unitsWhere_eq_zero
    intro row rowMem
    simp [IsConsumed, (mem_freshRows rowMem).2.1]
  rw [afterReserve, unitsWhere_append, fresh, Int.add_zero]

/-- The reserved reservations of a load are the order's on the loaded rows. -/
theorem reservedOver_loadRows_perm {db : FulfillmentDb} (keyed : db.WellKeyed)
    (order : OrderNumber) (ids : List UniqueId) :
    (reservedOver order (db.loadRows order (·.id ∈ ids))).Perm
      ((db.reservations.filter fun row =>
        decide (row.stockId ∈ ids) &&
          row.reservation.IsReservedBy order).map ReservationRow.reservation) := by
  have distinct : ((db.stock.filter (·.id ∈ ids)).map StockRow.id).Nodup :=
    (List.filter_sublist.map _).nodup keyed.stockIds
  have read : reservedOver order (db.loadRows order (·.id ∈ ids)) =
      ((((db.stock.filter (·.id ∈ ids)).map StockRow.id).flatMap fun id =>
        (db.reservationsOf order).filter (·.stockId = id)).filter fun row =>
          row.reservation.IsReservedBy order).map ReservationRow.reservation := by
    rw [reservedOver, loadRows, List.flatMap_map, List.flatMap_map,
      List.filter_flatMap, List.map_flatMap]
    refine List.flatMap_congr fun stockRow _ => ?_
    rw [StockItem.reservedBy, loadItem, List.filter_map]
    rfl
  have selected : (((db.reservationsOf order).filter (·.stockId ∈
      (db.stock.filter (·.id ∈ ids)).map StockRow.id)).filter fun row =>
        row.reservation.IsReservedBy order) =
      db.reservations.filter fun row =>
        decide (row.stockId ∈ ids) && row.reservation.IsReservedBy order := by
    rw [reservationsOf, List.filter_filter, List.filter_filter]
    refine List.filter_congr fun row rowMem => ?_
    obtain ⟨owner, ownerMem, same, _⟩ := keyed.onStock row rowMem
    have located : row.stockId ∈ (db.stock.filter (·.id ∈ ids)).map StockRow.id ↔
        row.stockId ∈ ids := by
      constructor
      · intro idMem
        obtain ⟨stockRow, stockMem, sameId⟩ := List.mem_map.mp idMem
        rw [← sameId]
        exact of_decide_eq_true (List.mem_filter.mp stockMem).2
      · intro idMem
        rw [← same] at idMem ⊢
        exact List.mem_map_of_mem
          (List.mem_filter.mpr ⟨ownerMem, decide_eq_true idMem⟩)
    rw [Bool.eq_iff_iff]
    simp only [Bool.and_eq_true, decide_eq_true_eq, located,
      Reservation.isReservedBy_iff]
    constructor
    · rintro ⟨⟨reserved, onRow⟩, _⟩
      exact ⟨onRow, reserved⟩
    · rintro ⟨onRow, reserved⟩
      exact ⟨⟨reserved, onRow⟩, reserved.1⟩
  rw [read, ← selected]
  exact ((db.reservationsOf_flatMap_perm order distinct).filter _).map _

/-- A despatch advice lists, of each product, what its despatch consumes. -/
theorem despatchedUnits_of_lines {db : FulfillmentDb} (keyed : db.WellKeyed)
    {order : OrderNumber} {ids : List UniqueId} {despatch : DespatchAdvice}
    (lines : despatch.lines =
      despatchLinesOf order (db.loadRows order (·.id ∈ ids)))
    (productCode : String) :
    OrderStock.despatchedUnits despatch productCode =
      unitsWhere (fun row => decide (row.reservation.productCode = productCode) &&
        (decide (row.stockId ∈ ids) && row.reservation.IsReservedBy order))
          db.reservations := by
  have perm := ((reservedOver_loadRows_perm keyed order ids).filter
    (·.productCode = productCode))
  have listed : OrderStock.despatchedUnits despatch productCode =
      unitsOf ((reservedOver order (db.loadRows order (·.id ∈ ids))).filter
        (·.productCode = productCode)) := by
    rw [OrderStock.despatchedUnits, lines, despatchLinesOf, List.filter_map,
      List.map_map]
    rfl
  rw [listed, unitsOf_perm perm, unitsWhere, List.filter_map, List.filter_filter]
  rfl

/-! ## The balance -/

/-- Where the units of a stock row come from and went, after what was
replenished of each company's products. -/
def UnitsExplained (catalogue : StockCatalogue)
    (replenished : String → String → Nat) (db : FulfillmentDb) (row : StockRow) :
    Prop :=
  ∃ first ∈ catalogue.rows, first.id = row.id ∧
    first.companyCode = row.companyCode ∧ first.productCode = row.productCode ∧
      row.units = first.units + replenished row.companyCode row.productCode -
        unitsWhere (IsConsumedOn row.id) db.reservations

/-- The units of every stock row and of every despatch advice are explained. -/
structure Explained (catalogue : StockCatalogue)
    (replenished : String → String → Nat) (db : FulfillmentDb) : Prop where
  sameRows : db.stock.map StockRow.id = catalogue.rows.map StockRow.id
  units : ∀ row ∈ db.stock, db.UnitsExplained catalogue replenished row
  despatched : ∀ productCode, db.despatchedUnits productCode =
    unitsWhere (IsConsumedOf productCode) db.reservations

/-- The rows stay explained if each changes by what is replenished and consumed
of it. -/
theorem Explained.of_map {catalogue : StockCatalogue}
    {replenished replenished' : String → String → Nat} {db db' : FulfillmentDb}
    (explained : db.Explained catalogue replenished) (change : StockRow → StockRow)
    (stock : db'.stock = db.stock.map change)
    (fields : ∀ row, (change row).id = row.id ∧
      (change row).companyCode = row.companyCode ∧
        (change row).productCode = row.productCode)
    (units : ∀ row ∈ db.stock, (change row).units -
        replenished' row.companyCode row.productCode +
          unitsWhere (IsConsumedOn row.id) db'.reservations =
      row.units - replenished row.companyCode row.productCode +
        unitsWhere (IsConsumedOn row.id) db.reservations)
    (despatched : ∀ productCode, db'.despatchedUnits productCode =
      unitsWhere (IsConsumedOf productCode) db'.reservations) :
    db'.Explained catalogue replenished' where
  sameRows := by
    have sameIds : ∀ row, (StockRow.id ∘ change) row = row.id :=
      fun row => (fields row).1
    rw [stock, List.map_map, ← explained.sameRows]
    exact List.map_congr_left fun row _ => sameIds row
  units := by
    intro row rowMem
    rw [stock] at rowMem
    obtain ⟨before, beforeMem, rfl⟩ := List.mem_map.mp rowMem
    obtain ⟨sameId, sameCompany, sameProduct⟩ := fields before
    obtain ⟨first, firstMem, firstId, firstCompany, firstProduct, explainedUnits⟩ :=
      explained.units before beforeMem
    have kept := units before beforeMem
    refine ⟨first, firstMem, firstId.trans sameId.symm,
      firstCompany.trans sameCompany.symm, firstProduct.trans sameProduct.symm, ?_⟩
    rw [sameId, sameCompany, sameProduct]
    omega
  despatched := despatched

/-- A reservation counts units and moves none. -/
theorem Explained.afterReserve {catalogue : StockCatalogue}
    {replenished : String → String → Nat} {db : FulfillmentDb}
    (explained : db.Explained catalogue replenished)
    (request : StockReserveRequest) :
    (db.afterReserve request).Explained catalogue replenished := by
  have kept := unitsWhere_consumed_of_reserve db request
  apply explained.of_map (fun row =>
    if isLockedBy request row then
      { row with
        reservedUnits := row.reservedUnits + unitsOf (db.freshOn request row) }
    else row) rfl
  · intro row
    split <;> exact ⟨rfl, rfl, rfl⟩
  · intro row _
    have here : unitsWhere (IsConsumedOn row.id)
        (db.afterReserve request).reservations = _ :=
      kept fun stored => decide (stored.stockId = row.id)
    rw [here]
    split <;> rfl
  · intro productCode
    exact (explained.despatched productCode).trans
      (kept fun stored =>
        decide (stored.reservation.productCode = productCode)).symm

/-- A release counts units and moves none. -/
theorem Explained.afterRelease {catalogue : StockCatalogue}
    {replenished : String → String → Nat} {db : FulfillmentDb}
    (explained : db.Explained catalogue replenished) (order : OrderNumber)
    (ids : List UniqueId) :
    (db.afterRelease order ids).Explained catalogue replenished := by
  have kept := unitsWhere_consumed_of_release order (· ∈ ids)
  apply explained.of_map (fun row =>
    if row.id ∈ ids then
      { row with
        reservedUnits := row.reservedUnits - unitsOf (db.reservedOn order row) }
    else row) rfl
  · intro row
    split <;> exact ⟨rfl, rfl, rfl⟩
  · intro row _
    have here : unitsWhere (IsConsumedOn row.id)
        (db.afterRelease order ids).reservations = _ :=
      kept (fun stored => decide (stored.stockId = row.id))
        (fun stored => by rw [(settleRow_fields _ _ _ stored).1]) db.reservations
    rw [here]
    split <;> rfl
  · intro productCode
    exact (explained.despatched productCode).trans
      (kept (fun stored => decide (stored.reservation.productCode = productCode))
        (fun stored => by rw [(settleRow_fields _ _ _ stored).2.2.2])
        db.reservations).symm

/-- A despatch takes off each row what it consumes there, and lists it. -/
theorem Explained.afterDespatch {catalogue : StockCatalogue}
    {replenished : String → String → Nat} {db : FulfillmentDb}
    (explained : db.Explained catalogue replenished) (keyed : db.WellKeyed)
    {despatch : DespatchAdvice} {ids : List UniqueId}
    (lines : despatch.lines = despatchLinesOf despatch.orderReference
      (db.loadRows despatch.orderReference (·.id ∈ ids))) :
    (db.afterDespatch despatch ids).Explained catalogue replenished := by
  have consumed := unitsWhere_consumed despatch.orderReference (· ∈ ids)
  apply explained.of_map (fun row =>
    if row.id ∈ ids then
      { row with
        units :=
          row.units - unitsOf (db.reservedOn despatch.orderReference row)
        reservedUnits := row.reservedUnits -
          unitsOf (db.reservedOn despatch.orderReference row) }
    else row) rfl
  · intro row
    split <;> exact ⟨rfl, rfl, rfl⟩
  · intro row _
    have here : unitsWhere (IsConsumedOn row.id)
        (db.afterDespatch despatch ids).reservations =
          unitsWhere (IsConsumedOn row.id) db.reservations + _ :=
      consumed (fun stored => decide (stored.stockId = row.id))
        (fun stored => by rw [(settleRow_fields _ _ _ stored).1]) db.reservations
    have taken : unitsWhere (fun stored => decide (stored.stockId = row.id) &&
        (decide (stored.stockId ∈ ids) &&
          stored.reservation.IsReservedBy despatch.orderReference))
        db.reservations =
      if row.id ∈ ids then
        unitsOf (db.reservedOn despatch.orderReference row)
      else 0 := by
      by_cases selected : row.id ∈ ids
      · rw [if_pos selected, unitsOf_reservedOn]
        apply unitsWhere_congr
        intro stored _
        rw [Bool.eq_iff_iff]
        simp only [IsOrderReservedOn, Bool.and_eq_true, decide_eq_true_eq,
          Reservation.isReservedBy_iff]
        constructor
        · rintro ⟨onRow, _, ofOrder, reserved⟩
          exact ⟨ofOrder, onRow, reserved⟩
        · rintro ⟨ofOrder, onRow, reserved⟩
          exact ⟨onRow, onRow ▸ selected, ofOrder, reserved⟩
      · rw [if_neg selected]
        apply unitsWhere_eq_zero
        intro stored _
        by_cases onRow : stored.stockId = row.id
        · simp [onRow, selected]
        · simp [onRow]
    rw [here, taken]
    split
    · simp only
      omega
    · omega
  · intro productCode
    have here : unitsWhere (IsConsumedOf productCode)
        (db.afterDespatch despatch ids).reservations = _ :=
      consumed (fun stored => decide (stored.reservation.productCode = productCode))
        (fun stored => by rw [(settleRow_fields _ _ _ stored).2.2.2])
        db.reservations
    have before := explained.despatched productCode
    have listed := despatchedUnits_of_lines keyed lines productCode
    have grown : (db.afterDespatch despatch ids).despatchedUnits productCode =
        db.despatchedUnits productCode +
          OrderStock.despatchedUnits despatch productCode := by
      simp only [despatchedUnits, FulfillmentDb.afterDespatch, List.map_append,
        List.sum_append]
      simp [OrderStock.despatchedUnits]
    rw [grown, before, listed, here]
    rfl

end FulfillmentDb

/-- The units a replenishment that succeeded added to a product. -/
def FulfillmentAnswer.replenished (answer : FulfillmentAnswer)
    (companyCode productCode : String) : Nat :=
  match answer.request, answer.result with
  | .stockReplenish request, .ok _ =>
      if companyCode = request.companyCode then
        FulfillmentDb.replenishedUnits request.lines productCode
      else 0
  | _, _ => 0

namespace FulfillmentSystem

open FulfillmentDb

/-- Everything replenished of a company's product. -/
def replenished (system : FulfillmentSystem) (companyCode productCode : String) :
    Nat :=
  (system.answers.map fun answer =>
    answer.replenished companyCode productCode).sum

/-- A committed transaction moves the units its answer tells of. -/
theorem explained_transaction {catalogue : StockCatalogue}
    {replenished : String → String → Nat} {db db' : FulfillmentDb}
    {call : FulfillmentCall} {reply : FulfillmentReply}
    (explained : db.Explained catalogue replenished) (sound : db.Sound)
    (result : transaction db call = some (.ok (db', reply))) :
    db'.Explained catalogue fun companyCode productCode =>
      replenished companyCode productCode +
        FulfillmentAnswer.replenished ⟨call.request, .ok reply⟩ companyCode
          productCode := by
  cases call with
  | stockReserve request =>
      cases reserve_effect sound.keyed (Option.some.inj result) with
      | repeated existing => exact explained
      | rejected payload first short payloadOf =>
          exact ⟨explained.sameRows, explained.units, explained.despatched⟩
      | reserved payload first served something payloadOf =>
          have after := explained.afterReserve request
          exact ⟨after.sameRows, after.units, after.despatched⟩
  | stockRelease request stockIds =>
      cases release_effect sound.keyed (Option.some.inj result) with
      | repeated noneConsumed nothing => exact explained
      | released payload noneConsumed something payloadOf sameReason =>
          have after := explained.afterRelease request.orderReference stockIds
          exact ⟨after.sameRows, after.units, after.despatched⟩
  | despatchLooked request => cases result
  | despatchCreate request stockIds =>
      cases createDespatch_effect sound.keyed (Option.some.inj result) with
      | repeated nothing consumed despatch found => exact explained
      | created despatch payload noneReleased something absent despatchOf lines
          events payloadOf =>
          rw [← despatchOf] at lines
          exact explained.afterDespatch sound.keyed lines
  | stockReplenish request =>
      rw [replenish_eq_ok sound.keyed (Option.some.inj result)]
      apply explained.of_map (fun row =>
        if row.companyCode = request.companyCode then
          { row with
            units := row.units + replenishedUnits request.lines row.productCode }
        else row) rfl
      · intro row
        split <;> exact ⟨rfl, rfl, rfl⟩
      · intro row _
        simp only [FulfillmentAnswer.replenished, FulfillmentCall.request]
        split <;> push_cast <;> omega
      · exact explained.despatched

theorem replenished_answer (system : FulfillmentSystem)
    (request : FulfillmentRequest)
    (result : Except FulfillmentError FulfillmentReply)
    (companyCode productCode : String) :
    (system.answer request result).replenished companyCode productCode =
      system.replenished companyCode productCode +
        FulfillmentAnswer.replenished ⟨request, result⟩ companyCode productCode := by
  simp [replenished, answer]

/-- An answer to a request about an order, or a refusal, replenishes nothing. -/
theorem replenished_eq_zero {request : FulfillmentRequest}
    {result : Except FulfillmentError FulfillmentReply}
    (idle : (∃ order, request.order? = some order) ∨ ∃ error, result = .error error)
    (companyCode productCode : String) :
    FulfillmentAnswer.replenished ⟨request, result⟩ companyCode productCode = 0 := by
  cases request with
  | stockReserve | stockRelease | despatchCreate => rfl
  | stockReplenish request =>
      rcases idle with ⟨order, ofOrder⟩ | ⟨error, rfl⟩
      · cases ofOrder
      · rfl

/-- Every action keeps the units explained. -/
theorem explained_step {catalogue : StockCatalogue}
    {system system' : FulfillmentSystem} {action : FulfillmentAction}
    (sound : system.db.Sound)
    (explained : system.db.Explained catalogue system.replenished)
    (stepped : step system action = some system') :
    system'.db.Explained catalogue system'.replenished := by
  have idle : ∀ request result,
      ((∃ order, FulfillmentRequest.order? request = some order) ∨
        ∃ error, result = .error error) →
      (system.answer request result).replenished = system.replenished := by
    intro request result idle
    funext companyCode productCode
    rw [replenished_answer, replenished_eq_zero idle]
    rfl
  cases step_change stepped with
  | received | located | aborted => exact explained
  | nothingToRelease request none =>
      have same := idle (.stockRelease request)
        (.ok (.alreadyReleased request.orderReference)) (Or.inl ⟨_, rfl⟩)
      exact same.symm ▸ explained
  | alreadyDespatched request despatch found =>
      have same := idle (.despatchCreate request)
        (.ok (replyFromSnapshot despatch false)) (Or.inl ⟨_, rfl⟩)
      exact same.symm ▸ explained
  | nothingToDespatch index request looked none =>
      have same := idle (.despatchCreate request)
        (.error (.noReservedStockForDespatch request.orderReference))
        (Or.inl ⟨_, rfl⟩)
      exact same.symm ▸ explained
  | committed index call db reply found result =>
      have after := explained_transaction explained sound result
      have same : ({ system.finished index with db := db }.answer call.request
          (.ok reply)).replenished =
          fun companyCode productCode =>
            system.replenished companyCode productCode +
              FulfillmentAnswer.replenished ⟨call.request, .ok reply⟩ companyCode
                productCode := by
        funext companyCode productCode
        exact replenished_answer _ _ _ _ _
      rw [same]
      exact after
  | refused index call error found result =>
      exact (idle _ _ (Or.inr ⟨_, rfl⟩)).symm ▸ explained

/-! ## Every committed state balances -/

/-- What holds of a stock row in a state. -/
structure RowBalanced (catalogue : StockCatalogue) (system : FulfillmentSystem)
    (row : StockRow) : Prop where
  nonneg : 0 ≤ row.reservedUnits
  within : row.reservedUnits ≤ row.units
  counted : row.reservedUnits =
    unitsWhere (IsReservedOn row.id) system.db.reservations
  explained : system.db.UnitsExplained catalogue system.replenished row

/-- What holds of the stock in a state: the rows are the catalogue's, each
balances, and what the reservations count as consumed is what the despatch
advices list. -/
structure StockBalanced (catalogue : StockCatalogue)
    (system : FulfillmentSystem) : Prop where
  sameRows : system.db.stock.map StockRow.id = catalogue.rows.map StockRow.id
  rows : ∀ row ∈ system.db.stock, system.RowBalanced catalogue row
  despatched : ∀ productCode, system.db.despatchedUnits productCode =
    unitsWhere (IsConsumedOf productCode) system.db.reservations

/-- Whatever requests the service takes, of any orders and in any
interleaving, its stock balances in every state. -/
theorem stock_balanced (catalogue : StockCatalogue) {system : FulfillmentSystem}
    (reached : Reachable step unguarded (initial catalogue) system) :
    system.StockBalanced catalogue := by
  have kept : system.db.Sound ∧
      system.db.Explained catalogue system.replenished := by
    apply reached.invariant
    · exact ⟨sound_initial catalogue,
        { sameRows := rfl
          units := fun row rowMem =>
            ⟨row, rowMem, rfl, rfl, rfl, by simp [initial, replenished]⟩
          despatched := fun productCode => rfl }⟩
    · rintro state action state' ⟨sound, explained⟩ _ stepped
      exact ⟨sound_step sound stepped, explained_step sound explained stepped⟩
  obtain ⟨sound, explained⟩ := kept
  constructor
  · exact explained.sameRows
  · intro row rowMem
    have bounds := sound.counted.nonneg row rowMem
    exact
      { nonneg := bounds.1
        within := bounds.2
        counted := (sound.counted row rowMem).1
        explained := explained.units row rowMem }
  · exact explained.despatched

/-! ## A run of it -/

/-- One order names a product on two lines and is despatched, another is
released, and stock is replenished in between. -/
def despatchAndReplenish : List FulfillmentAction :=
  [ .receive (.stockReserve ⟨⟨1⟩, "RET-0001", "COM-0001",
      [⟨"PRD-0001", 3⟩, ⟨"PRD-0001", 2⟩]⟩),
    .run 0,
    .receive (.stockReserve ⟨⟨2⟩, "RET-0001", "COM-0001",
      [⟨"PRD-0001", 4⟩]⟩),
    .run 0,
    .receive (.stockReplenish ⟨"COM-0001", [⟨"PRD-0001", 6⟩]⟩),
    .run 0,
    .receive (.despatchCreate ⟨⟨1⟩⟩),
    .locate 0,
    .run 0,
    .receive (.stockRelease ⟨⟨2⟩, .orderCancelled⟩),
    .run 0 ]

theorem despatched_stock_balanced :
    ∃ system,
      execute step (fun state action => decide (unguarded state action))
        (initial twoProducts) despatchAndReplenish = some system ∧
      (system.db.stock.map fun row => (row.units, row.reservedUnits)) =
        [(11, 0), (5, 0)] ∧
      system.StockBalanced twoProducts := by
  have runs : (execute step (fun state action => decide (unguarded state action))
      (initial twoProducts) despatchAndReplenish).map
        (fun system => system.db.stock.map fun row =>
          (row.units, row.reservedUnits)) = some [(11, 0), (5, 0)] := by
    decide
  obtain ⟨system, ran, units⟩ := Option.map_eq_some_iff.mp runs
  exact ⟨system, ran, units, stock_balanced twoProducts (reachable_of_execute ran)⟩

end FulfillmentSystem

end OrderToCash.Fulfillment
