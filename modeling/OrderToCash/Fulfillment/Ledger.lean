import OrderToCash.Fulfillment.AllOrNothing
import OrderToCash.Fulfillment.Service

/-!
# The stock ledger

The keys of the tables and the counters of the stock rows over every run of the
service: a stock row's reserved units are the units of the reservations still
reserved on it, and never more than its units.
-/

namespace OrderToCash.Fulfillment

open OrderToCash.Contracts
open OrderToCash.Kernel
open OrderToCash.Transition

namespace FulfillmentDb

/-! ## Keys -/

/-- An update of stock rows and reservation rows in place keeps the keys. -/
theorem WellKeyed.of_map {db db' : FulfillmentDb} (keyed : db.WellKeyed)
    (changeStock : StockRow → StockRow)
    (changeReservation : ReservationRow → ReservationRow)
    (stock : db'.stock = db.stock.map changeStock)
    (reservations : db'.reservations = db.reservations.map changeReservation)
    (nextId : db.nextId ≤ db'.nextId)
    (keepsStock : ∀ row, (changeStock row).id = row.id ∧
      (changeStock row).companyCode = row.companyCode ∧
      (changeStock row).productCode = row.productCode)
    (keepsReservation : ∀ row, (changeReservation row).stockId = row.stockId ∧
      (changeReservation row).reservation.id = row.reservation.id ∧
      (changeReservation row).reservation.companyCode =
        row.reservation.companyCode ∧
      (changeReservation row).reservation.productCode =
        row.reservation.productCode) :
    db'.WellKeyed where
  stockIds := by
    have same : db'.stock.map StockRow.id = db.stock.map StockRow.id := by
      rw [stock, List.map_map]
      exact List.map_congr_left fun row _ => (keepsStock row).1
    rw [same]
    exact keyed.stockIds
  stockKeys := by
    have same : (db'.stock.map fun row => (row.companyCode, row.productCode)) =
        db.stock.map fun row => (row.companyCode, row.productCode) := by
      rw [stock, List.map_map]
      refine List.map_congr_left fun row _ => ?_
      simp [keepsStock row]
    rw [same]
    exact keyed.stockKeys
  reservationIds := by
    have same : (db'.reservations.map fun row => row.reservation.id) =
        db.reservations.map fun row => row.reservation.id := by
      rw [reservations, List.map_map]
      exact List.map_congr_left fun row _ => (keepsReservation row).2.1
    rw [same]
    exact keyed.reservationIds
  generated := by
    intro row rowMem
    rw [reservations] at rowMem
    obtain ⟨before, beforeMem, rfl⟩ := List.mem_map.mp rowMem
    rw [(keepsReservation before).2.1]
    exact Nat.lt_of_lt_of_le (keyed.generated before beforeMem) nextId
  onStock := by
    intro row rowMem
    rw [reservations] at rowMem
    obtain ⟨before, beforeMem, rfl⟩ := List.mem_map.mp rowMem
    obtain ⟨owner, ownerMem, same, company, product⟩ :=
      keyed.onStock before beforeMem
    obtain ⟨keepsId, keepsCompany, keepsProduct⟩ := keepsStock owner
    obtain ⟨sameStock, _, sameCompany, sameProduct⟩ := keepsReservation before
    refine ⟨changeStock owner, stock ▸ List.mem_map_of_mem ownerMem, ?_, ?_, ?_⟩
    · rw [keepsId, sameStock, same]
    · rw [keepsCompany, sameCompany, company]
    · rw [keepsProduct, sameProduct, product]

theorem settleRow_fields (order : OrderNumber) (selected : UniqueId → Bool)
    (status : ReservationStatus) (row : ReservationRow) :
    (settleRow order selected status row).stockId = row.stockId ∧
      (settleRow order selected status row).reservation.id = row.reservation.id ∧
      (settleRow order selected status row).reservation.companyCode =
        row.reservation.companyCode ∧
      (settleRow order selected status row).reservation.productCode =
        row.reservation.productCode := by
  have fields := Reservation.moveTo_fields order status row.reservation
  unfold settleRow
  split
  · exact ⟨rfl, fields.1, fields.2.2.1, fields.2.2.2.1⟩
  · exact ⟨rfl, rfl, rfl, rfl⟩

theorem WellKeyed.recorded {db : FulfillmentDb} (keyed : db.WellKeyed)
    (fact : Fact) : (db.recorded fact).WellKeyed :=
  ⟨keyed.stockIds, keyed.stockKeys, keyed.reservationIds, keyed.generated,
    keyed.onStock⟩

theorem WellKeyed.afterReserve {db : FulfillmentDb} (keyed : db.WellKeyed)
    (request : StockReserveRequest) : (db.afterReserve request).WellKeyed := by
  have updated : WellKeyed
      { db with
        stock := (db.afterReserve request).stock
        nextId := (db.afterReserve request).nextId } := by
    refine keyed.of_map _ id rfl (List.map_id _).symm (Nat.le_add_right _ _)
      (fun row => ?_) fun _ => ⟨rfl, rfl, rfl, rfl⟩
    split <;> exact ⟨rfl, rfl, rfl⟩
  refine ⟨updated.stockIds, updated.stockKeys, ?_, ?_, ?_⟩
  · change ((db.reservations ++ db.freshRows request).map
      fun row => row.reservation.id).Nodup
    rw [List.map_append]
    refine List.nodup_append.mpr
      ⟨keyed.reservationIds, nodup_freshRows keyed request, ?_⟩
    intro old oldMem new newMem same
    obtain ⟨stored, storedMem, rfl⟩ := List.mem_map.mp oldMem
    obtain ⟨fresh, freshMem, rfl⟩ := List.mem_map.mp newMem
    have below := keyed.generated stored storedMem
    obtain ⟨_, _, _, above, _⟩ := mem_freshRows freshMem
    rw [same] at below
    omega
  · intro row rowMem
    rcases List.mem_append.mp rowMem with stored | fresh
    · exact updated.generated row stored
    · exact (mem_freshRows fresh).2.2.2.2
  · intro row rowMem
    rcases List.mem_append.mp rowMem with stored | fresh
    · exact updated.onStock row stored
    · obtain ⟨_, _, ⟨owner, ownerMem, locked, same, company, product⟩, _⟩ :=
        mem_freshRows fresh
      refine ⟨_, List.mem_map_of_mem ownerMem, ?_⟩
      simp only [locked, if_true]
      exact ⟨same, company, product⟩

theorem WellKeyed.afterRelease {db : FulfillmentDb} (keyed : db.WellKeyed)
    (order : OrderNumber) (ids : List UniqueId) :
    (db.afterRelease order ids).WellKeyed := by
  refine keyed.of_map _ _ rfl rfl (Nat.le_refl _) (fun row => ?_)
    (settleRow_fields order (· ∈ ids) .released)
  split <;> exact ⟨rfl, rfl, rfl⟩

theorem WellKeyed.afterDespatch {db : FulfillmentDb} (keyed : db.WellKeyed)
    (despatch : DespatchAdvice) (ids : List UniqueId) :
    (db.afterDespatch despatch ids).WellKeyed := by
  refine keyed.of_map _ _ rfl rfl (Nat.le_succ _) (fun row => ?_)
    (settleRow_fields despatch.orderReference (· ∈ ids) .consumed)
  split <;> exact ⟨rfl, rfl, rfl⟩

/-! ## Counters -/

/-- The units of the reservations a predicate selects. -/
def unitsWhere (selected : ReservationRow → Bool) (rows : List ReservationRow) :
    Int :=
  unitsOf ((rows.filter selected).map ReservationRow.reservation)

@[simp]
theorem unitsWhere_nil (selected : ReservationRow → Bool) :
    unitsWhere selected [] = 0 :=
  rfl

theorem unitsWhere_cons (selected : ReservationRow → Bool) (row : ReservationRow)
    (rest : List ReservationRow) :
    unitsWhere selected (row :: rest) =
      (if selected row then (row.reservation.units.value : Int) else 0) +
        unitsWhere selected rest := by
  by_cases isSelected : selected row
  · simp [unitsWhere, isSelected]
  · simp [unitsWhere, isSelected]

theorem unitsWhere_append (selected : ReservationRow → Bool)
    (first second : List ReservationRow) :
    unitsWhere selected (first ++ second) =
      unitsWhere selected first + unitsWhere selected second := by
  simp [unitsWhere]

theorem unitsWhere_nonneg (selected : ReservationRow → Bool)
    (rows : List ReservationRow) : 0 ≤ unitsWhere selected rows :=
  unitsOf_nonneg _

/-- The reservation is still reserved on a stock row. -/
def IsReservedOn (stockId : UniqueId) (row : ReservationRow) : Bool :=
  row.stockId = stockId ∧ row.reservation.status = .reserved

/-- The reservation is an order's, still reserved on a stock row. -/
def IsOrderReservedOn (order : OrderNumber) (stockId : UniqueId)
    (row : ReservationRow) : Bool :=
  row.IsOf order ∧ row.stockId = stockId ∧ row.reservation.status = .reserved

theorem unitsOf_reservedOn (db : FulfillmentDb) (order : OrderNumber)
    (row : StockRow) :
    unitsOf (db.reservedOn order row) =
      unitsWhere (IsOrderReservedOn order row.id) db.reservations := by
  have selected : ((db.reservationsOf order).filter (·.stockId = row.id)).filter
      ((·.IsReservedBy order) ∘ ReservationRow.reservation) =
        db.reservations.filter (IsOrderReservedOn order row.id) := by
    rw [reservationsOf, List.filter_filter, List.filter_filter]
    refine List.filter_congr fun stored _ => ?_
    rw [Bool.eq_iff_iff]
    simp only [IsOrderReservedOn, Function.comp_apply, Bool.and_eq_true,
      decide_eq_true_eq, Reservation.isReservedBy_iff]
    constructor
    · rintro ⟨⟨⟨ofOrder, reserved⟩, onRow⟩, _⟩
      exact ⟨ofOrder, onRow, reserved⟩
    · rintro ⟨ofOrder, onRow, reserved⟩
      exact ⟨⟨⟨ofOrder, reserved⟩, onRow⟩, ofOrder⟩
  rw [reservedOn, StockItem.reservedBy, loadItem, List.filter_map, selected,
    unitsWhere]

/-- Settling an order's reservations takes their units off the rows they are
on. -/
theorem unitsWhere_settled (order : OrderNumber) (selected : UniqueId → Bool)
    {status : ReservationStatus} (leaves : status ≠ .reserved)
    (stockId : UniqueId) (rows : List ReservationRow) :
    unitsWhere (IsReservedOn stockId)
        (rows.map (settleRow order selected status)) =
      unitsWhere (IsReservedOn stockId) rows -
        if selected stockId then
          unitsWhere (IsOrderReservedOn order stockId) rows
        else 0 := by
  induction rows with
  | nil => simp
  | cons row rest inductionHypothesis =>
      have units : (settleRow order selected status row).reservation.units =
          row.reservation.units := by
        have fields := Reservation.moveTo_fields order status row.reservation
        unfold settleRow
        split
        · exact fields.2.2.2.2
        · rfl
      rw [List.map_cons, unitsWhere_cons, unitsWhere_cons, unitsWhere_cons,
        inductionHypothesis, units]
      have here : (if IsReservedOn stockId (settleRow order selected status row)
            then (row.reservation.units.value : Int) else 0) =
          (if IsReservedOn stockId row then (row.reservation.units.value : Int)
            else 0) -
            if selected stockId then
              (if IsOrderReservedOn order stockId row then
                (row.reservation.units.value : Int) else 0)
            else 0 := by
        by_cases onRow : row.stockId = stockId
        · by_cases isSelected : selected stockId = true
          · by_cases reserved : row.reservation.IsReservedBy order = true
            · obtain ⟨ofOrder, isReserved⟩ :=
                Reservation.isReservedBy_iff.mp reserved
              simp [settleRow, onRow, isSelected, IsReservedOn,
                IsOrderReservedOn, ReservationRow.IsOf, ofOrder, isReserved,
                Reservation.moveTo_of_isReservedBy status reserved, leaves]
            · have notReserved : ¬ (row.IsOf order ∧
                  row.reservation.status = .reserved) := fun both =>
                reserved (Reservation.isReservedBy_iff.mpr both)
              have unmoved := Reservation.moveTo_of_not_isReservedBy status
                (Bool.not_eq_true _ ▸ reserved)
              simp [settleRow, onRow, isSelected, IsReservedOn,
                IsOrderReservedOn, unmoved, notReserved]
          · simp [settleRow, onRow, isSelected]
        · have moved : (settleRow order selected status row).stockId ≠ stockId := by
            rw [(settleRow_fields order selected status row).1]
            exact onRow
          simp [IsReservedOn, IsOrderReservedOn, onRow, moved]
      rw [here]
      by_cases isSelected : selected stockId = true
      · simp only [if_pos isSelected]
        omega
      · simp only [if_neg isSelected]
        omega

/-- The stock rows count the reservations on them, within their units. -/
def Counted (db : FulfillmentDb) : Prop :=
  ∀ row ∈ db.stock,
    row.reservedUnits = unitsWhere (IsReservedOn row.id) db.reservations ∧
      row.reservedUnits ≤ row.units

theorem Counted.nonneg {db : FulfillmentDb} (counted : db.Counted) :
    ∀ row ∈ db.stock, 0 ≤ row.reservedUnits ∧ row.reservedUnits ≤ row.units := by
  intro row rowMem
  obtain ⟨same, bounded⟩ := counted row rowMem
  exact ⟨same ▸ unitsWhere_nonneg _ _, bounded⟩

theorem Counted.afterRelease {db : FulfillmentDb} (counted : db.Counted)
    (order : OrderNumber) (ids : List UniqueId) :
    (db.afterRelease order ids).Counted := by
  intro row rowMem
  obtain ⟨before, beforeMem, rfl⟩ := List.mem_map.mp rowMem
  obtain ⟨same, bounded⟩ := counted before beforeMem
  have leaves : ReservationStatus.released ≠ .reserved := by decide
  have nonneg := unitsWhere_nonneg (IsOrderReservedOn order before.id)
    db.reservations
  have settled : unitsWhere (IsReservedOn before.id)
      (db.afterRelease order ids).reservations = _ :=
    unitsWhere_settled order (· ∈ ids) leaves before.id db.reservations
  by_cases isSelected : before.id ∈ ids
  · simp only [isSelected, decide_true, if_true, unitsOf_reservedOn]
      at settled ⊢
    omega
  · simp only [isSelected, decide_false, Bool.false_eq_true, if_false]
      at settled ⊢
    omega

theorem Counted.afterDespatch {db : FulfillmentDb} (counted : db.Counted)
    (despatch : DespatchAdvice) (ids : List UniqueId) :
    (db.afterDespatch despatch ids).Counted := by
  intro row rowMem
  obtain ⟨before, beforeMem, rfl⟩ := List.mem_map.mp rowMem
  obtain ⟨same, bounded⟩ := counted before beforeMem
  have leaves : ReservationStatus.consumed ≠ .reserved := by decide
  have settled : unitsWhere (IsReservedOn before.id)
      (db.afterDespatch despatch ids).reservations = _ :=
    unitsWhere_settled despatch.orderReference (· ∈ ids) leaves before.id
      db.reservations
  by_cases isSelected : before.id ∈ ids
  · simp only [isSelected, decide_true, if_true, unitsOf_reservedOn]
      at settled ⊢
    omega
  · simp only [isSelected, decide_false, Bool.false_eq_true, if_false]
      at settled ⊢
    omega

/-- The fresh rows add their units to the stock rows they are on. -/
theorem unitsWhere_freshRows {db : FulfillmentDb} (keyed : db.WellKeyed)
    (request : StockReserveRequest) {row : StockRow} (rowMem : row ∈ db.stock) :
    unitsWhere (IsReservedOn row.id) (db.freshRows request) =
      if isLockedBy request row then unitsOf (db.freshOn request row) else 0 := by
  have perRow : ∀ stockRow : StockRow,
      unitsWhere (IsReservedOn row.id) ((db.freshOn request stockRow).map
        fun reservation => ⟨stockRow.id, reservation⟩) =
      if stockRow.id = row.id then unitsOf (db.freshOn request stockRow)
      else 0 := by
    intro stockRow
    have reserved : ∀ reservation ∈ db.freshOn request stockRow,
        reservation.status = .reserved :=
      fun reservation fresh => (mem_freshFor fresh).2.1
    generalize db.freshOn request stockRow = fresh at reserved
    induction fresh with
    | nil => simp
    | cons reservation rest inductionHypothesis =>
        have here := reserved reservation List.mem_cons_self
        rw [List.map_cons, unitsWhere_cons, inductionHypothesis
          fun other otherMem => reserved other (List.mem_cons_of_mem _ otherMem)]
        by_cases same : stockRow.id = row.id
        · simp [IsReservedOn, same, here]
        · simp [IsReservedOn, same]
  have overRows : ∀ stockRows : List StockRow,
      (stockRows.map StockRow.id).Nodup → (∀ other ∈ stockRows, other ∈ db.stock) →
      unitsWhere (IsReservedOn row.id) (stockRows.flatMap fun stockRow =>
        (db.freshOn request stockRow).map fun reservation =>
          ⟨stockRow.id, reservation⟩) =
      if row ∈ stockRows then unitsOf (db.freshOn request row) else 0 := by
    intro stockRows distinct stocked
    induction stockRows with
    | nil => simp
    | cons first rest inductionHypothesis =>
        rw [List.map_cons, List.nodup_cons] at distinct
        rw [List.flatMap_cons, unitsWhere_append, perRow, inductionHypothesis
          distinct.2 fun other otherMem =>
            stocked other (List.mem_cons_of_mem first otherMem)]
        by_cases here : first.id = row.id
        · have sameRow : first = row :=
            List.inj_on_of_nodup_map keyed.stockIds
              (stocked first List.mem_cons_self) rowMem here
          have notLater : row ∉ rest := fun later =>
            distinct.1 (here ▸ List.mem_map_of_mem later)
          simp [sameRow, notLater]
        · have differs : row ≠ first := fun same => here (same ▸ rfl)
          simp [here, differs]
  rw [freshRows, overRows _ ((List.filter_sublist.map _).nodup keyed.stockIds)
    fun other otherMem => (List.mem_filter.mp otherMem).1]
  simp [List.mem_filter, rowMem]

theorem Counted.afterReserve {db : FulfillmentDb} (counted : db.Counted)
    (keyed : db.WellKeyed) (request : StockReserveRequest)
    (served : shortagesOf (db.loadRows request.orderReference
      (isLockedBy request)) request.lines = []) :
    (db.afterReserve request).Counted := by
  intro row rowMem
  obtain ⟨before, beforeMem, rfl⟩ := List.mem_map.mp rowMem
  obtain ⟨same, bounded⟩ := counted before beforeMem
  have fresh := unitsWhere_freshRows keyed request beforeMem
  have grown : unitsWhere (IsReservedOn before.id)
      (db.afterReserve request).reservations = _ :=
    unitsWhere_append _ db.reservations (db.freshRows request)
  by_cases locked : isLockedBy request before = true
  · have inLoad : db.loadItem request.orderReference before ∈
        db.loadRows request.orderReference (isLockedBy request) :=
      List.mem_map_of_mem (List.mem_filter.mpr ⟨beforeMem, locked⟩)
    have product : before.productCode ∈
        request.lines.map StockReserveLine.productCode := by
      simp only [isLockedBy, IsLockedFor, decide_eq_true_eq] at locked
      exact locked.2
    have fits := requestedTotal_le_of_shortagesOf_eq_nil
      (nodup_productCode_of_company keyed _ _ _) inLoad served product
    have units : unitsOf (db.freshOn request before) =
        requestedTotal request.lines before.productCode :=
      unitsOf_freshFor 0 request.lines _
    have available : (db.loadItem request.orderReference before).availableUnits =
        before.units - before.reservedUnits :=
      rfl
    have sameProduct :
        (db.loadItem request.orderReference before).productCode =
          before.productCode :=
      rfl
    rw [sameProduct, available] at fits
    simp only [locked, if_true] at fresh grown ⊢
    omega
  · simp only [locked, Bool.false_eq_true, if_false] at fresh grown ⊢
    omega

theorem Counted.replenished {db : FulfillmentDb} (counted : db.Counted)
    (added : StockRow → Nat) :
    Counted
      { db with
        stock := db.stock.map fun row =>
          { row with units := row.units + added row } } := by
  intro row rowMem
  obtain ⟨before, beforeMem, rfl⟩ := List.mem_map.mp rowMem
  obtain ⟨same, bounded⟩ := counted before beforeMem
  refine ⟨same, ?_⟩
  simp only
  omega

/-- The keys and the counters together. -/
structure Sound (db : FulfillmentDb) : Prop where
  keyed : db.WellKeyed
  counted : db.Counted

end FulfillmentDb

namespace FulfillmentSystem

open FulfillmentDb

theorem sound_initial (catalogue : StockCatalogue) :
    (initial catalogue).db.Sound where
  keyed :=
    { stockIds := catalogue.ids
      stockKeys := catalogue.keys
      reservationIds := List.nodup_nil
      generated := by
        intro row rowMem
        cases rowMem
      onStock := by
        intro row rowMem
        cases rowMem }
  counted := by
    intro row rowMem
    obtain ⟨unreserved, nonneg⟩ := catalogue.unreserved row rowMem
    refine ⟨unreserved, ?_⟩
    rw [unreserved]
    exact nonneg

/-- A committed transaction keeps the ledger sound. -/
theorem sound_transaction {db db' : FulfillmentDb} {call : FulfillmentCall}
    {reply : FulfillmentReply} (sound : db.Sound)
    (result : transaction db call = some (.ok (db', reply))) : db'.Sound := by
  cases call with
  | stockReserve request =>
      cases reserve_effect sound.keyed (Option.some.inj result) with
      | repeated existing => exact sound
      | rejected payload first short ofOrder =>
          exact ⟨sound.keyed.recorded _, sound.counted⟩
      | reserved payload first served something ofOrder =>
          exact ⟨(sound.keyed.afterReserve request).recorded _,
            sound.counted.afterReserve sound.keyed request served⟩
  | stockRelease request stockIds =>
      cases release_effect sound.keyed (Option.some.inj result) with
      | repeated noneConsumed nothing => exact sound
      | released payload noneConsumed something ofOrder sameReason =>
          exact ⟨(sound.keyed.afterRelease _ _).recorded _,
            sound.counted.afterRelease _ _⟩
  | despatchLooked request => cases result
  | despatchCreate request stockIds =>
      cases createDespatch_effect sound.keyed (Option.some.inj result) with
      | repeated nothing consumed despatch found => exact sound
      | created despatch payload noneReleased something absent ofOrder lines
          events payloadOfOrder =>
          exact ⟨sound.keyed.afterDespatch _ _, sound.counted.afterDespatch _ _⟩
  | stockReplenish request =>
      obtain ⟨added, rfl⟩ := replenish_effect sound.keyed (Option.some.inj result)
      refine ⟨?_, sound.counted.replenished added⟩
      exact sound.keyed.of_map _ id rfl (List.map_id _).symm (Nat.le_refl _)
        (fun _ => ⟨rfl, rfl, rfl⟩) fun _ => ⟨rfl, rfl, rfl, rfl⟩

/-- Every action keeps the ledger sound. -/
theorem sound_step {system system' : FulfillmentSystem}
    {action : FulfillmentAction} (sound : system.db.Sound)
    (stepped : step system action = some system') : system'.db.Sound := by
  cases step_change stepped with
  | committed index call db reply found result =>
      exact sound_transaction sound result
  | received => exact sound
  | nothingToRelease => exact sound
  | alreadyDespatched => exact sound
  | nothingToDespatch => exact sound
  | located => exact sound
  | refused => exact sound
  | aborted => exact sound

end FulfillmentSystem

end OrderToCash.Fulfillment
