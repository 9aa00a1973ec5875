import OrderToCash.Fulfillment.AllOrNothing
import OrderToCash.Fulfillment.WriteBack

/-!
# The stock check

What a placement asks before it places an order: a read without a lock that
compares each line with what is available of its product.  A reservation of the
same lines compares what the lines of each product request together.
-/

namespace OrderToCash.Fulfillment

open OrderToCash.Checked
open OrderToCash.Contracts
open OrderToCash.Kernel
open OrderToCash.Table

structure StockCheckLine where
  productCode : String
  requested : Quantity
  available : Int
  sufficient : Bool
deriving DecidableEq

structure StockCheckReply where
  available : Bool
  lines : List StockCheckLine
deriving DecidableEq

namespace FulfillmentDb

/-- The rows of the products, by product. -/
def stockByProduct (db : FulfillmentDb) (companyCode : String)
    (productCodes : List String) : List StockRow :=
  upsertAll StockRow.productCode (fun _ row => row) []
    (db.stock.filter fun row =>
      row.companyCode = companyCode ∧ row.productCode ∈ productCodes)

/-- What is available of a product among rows; nothing of an unknown one. -/
def availableOf (rows : List StockRow) (productCode : String) : Int :=
  match rows.find? (·.productCode = productCode) with
  | some row => row.units - row.reservedUnits
  | none => 0

/-- Each line is compared with what is available of its product. -/
def availability (db : FulfillmentDb) (companyCode : String)
    (lines : List StockReserveLine) : StockCheckReply :=
  let byProduct :=
    db.stockByProduct companyCode (lines.map StockReserveLine.productCode)
  let replyLines := lines.map fun line =>
    let available := availableOf byProduct line.productCode
    { productCode := line.productCode
      requested := line.units
      available := available
      sufficient := decide ((line.units.value : Int) ≤ available) }
  { available := replyLines.all StockCheckLine.sufficient
    lines := replyLines }

/-! ## The check and the loaded items -/

section Loaded

variable {db : FulfillmentDb} {companyCode : String} {order : OrderNumber}

theorem stockByProduct_eq (keyed : db.WellKeyed) (order : OrderNumber)
    (productCodes : List String) :
    db.stockByProduct companyCode productCodes =
      db.stock.filter (IsLockedFor companyCode productCodes) := by
  have products := nodup_productCode_of_company keyed order companyCode productCodes
  rw [loadRows, List.map_map] at products
  exact upsertAll_nil_of_nodup products

/-- The check reads what a locked load of the order's products would have. -/
theorem availableOf_loadRows (selected : StockRow → Bool) (productCode : String) :
    availableOf (db.stock.filter selected) productCode =
      match itemOf (db.loadRows order selected) productCode with
      | some item => item.availableUnits
      | none => 0 := by
  unfold availableOf itemOf loadRows
  rw [List.find?_map]
  have sameProduct : ((fun item : StockItem => decide (item.productCode = productCode)) ∘
      db.loadItem order) = fun row => decide (row.productCode = productCode) := rfl
  rw [sameProduct]
  cases (db.stock.filter selected).find? fun row =>
      decide (row.productCode = productCode) with
  | none => rfl
  | some row => rfl

end Loaded

/-- The line on its own does not exceed what is available of its product. -/
def FitsAlone (rows : List StockRow) (line : StockReserveLine) : Prop :=
  (line.units.value : Int) ≤ availableOf rows line.productCode

/-- Nor do the lines of its product together. -/
def FitsTogether (rows : List StockRow) (lines : List StockReserveLine)
    (line : StockReserveLine) : Prop :=
  requestedTotal lines line.productCode ≤ availableOf rows line.productCode

theorem FitsTogether.fitsAlone {rows : List StockRow}
    {lines : List StockReserveLine} {line : StockReserveLine}
    (lineMem : line ∈ lines) (together : FitsTogether rows lines line) :
    FitsAlone rows line :=
  Int.le_trans (units_le_requestedTotal lineMem) together

theorem available_iff {db : FulfillmentDb} {companyCode : String}
    {lines : List StockReserveLine} :
    (db.availability companyCode lines).available = true ↔
      ∀ line ∈ lines, FitsAlone (db.stockByProduct companyCode
        (lines.map StockReserveLine.productCode)) line := by
  simp only [availability, List.all_eq_true, List.forall_mem_map, decide_eq_true_eq]
  exact Iff.rfl

/-- A line is served by the loaded items exactly where the lines of its product
together do not exceed what the check reads. -/
theorem isServed_iff_fitsTogether {db : FulfillmentDb} (keyed : db.WellKeyed)
    {companyCode : String} {order : OrderNumber} {lines : List StockReserveLine}
    {line : StockReserveLine} (lineMem : line ∈ lines) :
    IsServed (db.loadRows order (IsLockedFor companyCode
        (lines.map StockReserveLine.productCode))) lines line ↔
      FitsTogether (db.stockByProduct companyCode
        (lines.map StockReserveLine.productCode)) lines line := by
  have distinct := nodup_productCode_of_company keyed order companyCode
    (lines.map StockReserveLine.productCode)
  rw [FitsTogether, stockByProduct_eq keyed order, @availableOf_loadRows db order]
  cases found : itemOf (db.loadRows order (IsLockedFor companyCode
      (lines.map StockReserveLine.productCode))) line.productCode with
  | none =>
      have unknown := itemOf_eq_none_iff.mp found
      have requested := units_le_requestedTotal lineMem
      have positive := line.units.positive
      constructor
      · rintro ⟨item, itemMem, same, _⟩
        exact absurd (List.mem_map.mpr ⟨item, itemMem, same⟩) unknown
      · intro fits
        simp only at fits
        omega
  | some item =>
      rcases itemOf_eq_some found with ⟨itemMem, same⟩
      constructor
      · rintro ⟨other, otherMem, otherSame, fits⟩
        have sameItem : other = item :=
          List.inj_on_of_nodup_map distinct otherMem itemMem
            (otherSame.trans same.symm)
        exact sameItem ▸ fits
      · intro fits
        exact ⟨item, itemMem, same, fits⟩

/-- The answer of a reservation of the lines on the same state is `reserved`. -/
def AnswersReserved (items : List StockItem) (request : StockReserveRequest)
    (newId : Nat → UniqueId) : Prop :=
  ∃ outcome, reserveOrderStock items request newId = .ok outcome ∧
    outcome.IsReserved

theorem answersReserved_iff {items : List StockItem}
    {request : StockReserveRequest} {newId : Nat → UniqueId}
    (distinct : (items.map StockItem.productCode).Nodup) :
    AnswersReserved items request newId ↔
      request.lines ≠ [] ∧
        ∀ line ∈ request.lines, IsServed items request.lines line := by
  constructor
  · rintro ⟨outcome, accepted, isReserved⟩
    have nonempty : request.lines ≠ [] := by
      intro empty
      have nothing := @reserveOrderStock_of_unknown items request newId
        (by simp [empty])
      rw [accepted, Except.ok.injEq] at nothing
      subst nothing
      exact isReserved
    have allOrNothing := allOrNothing_of_accepted distinct nonempty accepted
    exact ⟨nonempty, allOrNothing.decided.mp isReserved⟩
  · rintro ⟨nonempty, served⟩
    obtain ⟨outcome, accepted⟩ := @reserveOrderStock_isOk items request newId distinct
    have allOrNothing := allOrNothing_of_accepted distinct nonempty accepted
    exact ⟨outcome, accepted, allOrNothing.decided.mpr served⟩

/-- The check and the reservation of the same lines on the same state agree
exactly where there are lines, and one of them does not fit alone or the lines
of every product fit together. -/
theorem available_iff_answersReserved_iff {db : FulfillmentDb}
    (keyed : db.WellKeyed) {request : StockReserveRequest} {items : List StockItem}
    (locked : db.lockForOrder request.companyCode
      (request.lines.map StockReserveLine.productCode) request.orderReference =
        .ok items) (newId : Nat → UniqueId) :
    let rows := db.stockByProduct request.companyCode
      (request.lines.map StockReserveLine.productCode)
    ((db.availability request.companyCode request.lines).available = true ↔
        AnswersReserved items request newId) ↔
      request.lines ≠ [] ∧
        ((∃ line ∈ request.lines, ¬ FitsAlone rows line) ∨
          ∀ line ∈ request.lines, FitsTogether rows request.lines line) := by
  intro rows
  have loaded := lockForOrder_eq_ok keyed locked
  subst loaded
  have distinct := nodup_productCode_of_company keyed request.orderReference
    request.companyCode (request.lines.map StockReserveLine.productCode)
  have servedIff : (∀ line ∈ request.lines, IsServed
        (db.loadRows request.orderReference (IsLockedFor request.companyCode
          (request.lines.map StockReserveLine.productCode))) request.lines line) ↔
      ∀ line ∈ request.lines, FitsTogether rows request.lines line :=
    forall₂_congr fun line lineMem => isServed_iff_fitsTogether keyed lineMem
  have togetherAlone : (∀ line ∈ request.lines,
        FitsTogether rows request.lines line) →
      ∀ line ∈ request.lines, FitsAlone rows line :=
    fun together line lineMem => (together line lineMem).fitsAlone lineMem
  rw [available_iff, answersReserved_iff distinct, servedIff]
  constructor
  · intro agree
    by_cases alone : ∀ line ∈ request.lines, FitsAlone rows line
    · exact ⟨(agree.mp alone).1, Or.inr (agree.mp alone).2⟩
    · constructor
      · rintro empty
        exact alone (by simp [empty])
      · push Not at alone
        exact Or.inl alone
  · rintro ⟨nonempty, ⟨line, lineMem, short⟩ | together⟩
    · constructor
      · intro alone
        exact absurd (alone line lineMem) short
      · intro reserved
        exact absurd (togetherAlone reserved.2 line lineMem) short
    · exact ⟨fun _ => ⟨nonempty, together⟩, fun _ => togetherAlone together⟩

/-- A database with five units of one product, of which one is reserved. -/
def ofFive : FulfillmentDb :=
  { stock :=
      [ { id := ⟨1⟩
          companyCode := "COM-0001"
          productCode := "P-1"
          units := 5
          reservedUnits := 1
          lowStockThreshold := 0 } ]
    reservations := []
    despatches := []
    outbox := []
    nextId := 2
    nextDespatchNumber := 1 }

theorem ofFive_wellKeyed : ofFive.WellKeyed where
  stockIds := by decide
  stockKeys := by decide
  reservationIds := by decide
  generated := by simp [ofFive]
  onStock := by simp [ofFive]

/-- What is locked for an order of its product. -/
theorem ofFive_locked : ofFive.lockForOrder "COM-0001" ["P-1", "P-1"] ⟨7⟩ =
    .ok [stockOfFive] := by
  decide +kernel

/-- Two lines of two units each fit together. -/
theorem ofFive_available_iff :
    let lines := (requestOfTwoLines ⟨2, by decide⟩).lines
    let rows := ofFive.stockByProduct "COM-0001" ["P-1", "P-1"]
    ((ofFive.availability "COM-0001" lines).available = true ↔
        AnswersReserved [stockOfFive] (requestOfTwoLines ⟨2, by decide⟩)
          UniqueId.mk) ↔
      lines ≠ [] ∧ ((∃ line ∈ lines, ¬ FitsAlone rows line) ∨
        ∀ line ∈ lines, FitsTogether rows lines line) :=
  @available_iff_answersReserved_iff ofFive ofFive_wellKeyed
    (requestOfTwoLines ⟨2, by decide⟩) [stockOfFive] ofFive_locked UniqueId.mk

/-- Two lines of three units each fit one by one and not together: the check
answers that they are available, and the reservation rejects them. -/
theorem ofFive_disagrees :
    ofFive.WellKeyed ∧
      ofFive.lockForOrder "COM-0001" ["P-1", "P-1"] ⟨7⟩ = .ok [stockOfFive] ∧
      ¬ ((ofFive.availability "COM-0001"
            (requestOfTwoLines ⟨3, by decide⟩).lines).available = true ↔
          AnswersReserved [stockOfFive] (requestOfTwoLines ⟨3, by decide⟩)
            UniqueId.mk) := by
  refine ⟨ofFive_wellKeyed, ofFive_locked, ?_⟩
  intro agree
  have isAvailable : (ofFive.availability "COM-0001"
      (requestOfTwoLines ⟨3, by decide⟩).lines).available = true := by
    decide +kernel
  have rejected : ∃ items shortages, reserveOrderStock [stockOfFive]
      (requestOfTwoLines ⟨3, by decide⟩) UniqueId.mk =
        .ok (.rejected items shortages) := ⟨_, _, rfl⟩
  rcases rejected with ⟨items, shortages, rejected⟩
  rcases agree.mp isAvailable with ⟨outcome, accepted, isReserved⟩
  rw [rejected, Except.ok.injEq] at accepted
  subst accepted
  exact isReserved

end FulfillmentDb

end OrderToCash.Fulfillment
