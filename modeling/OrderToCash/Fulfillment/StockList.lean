import OrderToCash.Billing.CreditView
import OrderToCash.Fulfillment.StockBalance
import OrderToCash.Table.Paging

/-!
# The stock list

A page of the stock lines, by company and product, as the warehouse has them:
what is there, what is reserved of it and what is left.  It is read without a
lock, and a line below its threshold is chosen by what the page shows of it.  What
is reserved of a line, and what has left it, is what the orders have of it.
-/

namespace OrderToCash.Fulfillment

open OrderToCash.Billing (PageInfo)
open OrderToCash.Contracts
open OrderToCash.Kernel
open OrderToCash.Table

structure StockListRequest where
  companyCode : Option String
  productCode : Option String
  belowThreshold : Option Bool
  page : Option Nat
  pageSize : Option Nat
deriving DecidableEq, Repr

structure StockListReply where
  items : List StockView
  page : PageInfo
deriving DecidableEq, Repr

def defaultPage : Nat := 1

def defaultPageSize : Nat := 25

def toStockView (row : StockRow) : StockView :=
  { companyCode := row.companyCode
    productCode := row.productCode
    units := row.units
    reservedUnits := row.reservedUnits
    availableUnits := row.units - row.reservedUnits
    lowStockThreshold := row.lowStockThreshold }

/-- The conditions of a request, each only where the request has it. -/
def StockListRequest.Asks (query : StockListRequest) (row : StockRow) : Prop :=
  (∀ companyCode ∈ query.companyCode, row.companyCode = companyCode) ∧
    (∀ productCode ∈ query.productCode, row.productCode = productCode) ∧
      (query.belowThreshold = some true →
        row.units - row.reservedUnits < row.lowStockThreshold)

instance (query : StockListRequest) (row : StockRow) : Decidable (query.Asks row) :=
  inferInstanceAs (Decidable (_ ∧ _ ∧ _))

/-- `ORDER BY company_code, product_code`, as the database compares texts. -/
def byCompanyAndProduct (collates : String → String → Bool) (first second : StockRow) :
    Bool :=
  collates first.companyCode second.companyCode &&
    (!collates second.companyCode first.companyCode ||
      collates first.productCode second.productCode)

/-- The pages the stock page counts. -/
def totalPages (info : PageInfo) : Nat :=
  max 1 ((info.total + info.pageSize - 1) / info.pageSize)

theorem le_totalPages_mul {info : PageInfo} (positive : 0 < info.pageSize) :
    info.total ≤ totalPages info * info.pageSize := by
  have rounded := Nat.lt_div_mul_add positive (a := info.total + info.pageSize - 1)
  have counted := Nat.mul_le_mul_right info.pageSize
    (Nat.le_max_right 1 ((info.total + info.pageSize - 1) / info.pageSize))
  rw [totalPages]
  omega

namespace FulfillmentDb

/-- The lines a request asks for. -/
def listed (db : FulfillmentDb) (query : StockListRequest) : List StockRow :=
  db.stock.filter (query.Asks ·)

/-- The rows of a page. -/
def pageOf (db : FulfillmentDb) (collates : String → String → Bool)
    (query : StockListRequest) : List StockRow :=
  pageAt (query.pageSize.getD defaultPageSize) (query.page.getD defaultPage)
    ((db.listed query).mergeSort (byCompanyAndProduct collates))

/-- `DrizzleStockReadRepository.list`. -/
def list (db : FulfillmentDb) (collates : String → String → Bool)
    (query : StockListRequest) : StockListReply :=
  { items := (db.pageOf collates query).map toStockView
    page :=
      { page := query.page.getD defaultPage
        pageSize := query.pageSize.getD defaultPageSize
        total := (db.listed query).length } }

theorem mem_listed {db : FulfillmentDb} {query : StockListRequest} {row : StockRow} :
    row ∈ db.listed query ↔ row ∈ db.stock ∧ query.Asks row := by
  simp [listed]

theorem mem_listed_of_mem_pageOf {db : FulfillmentDb} {collates : String → String → Bool}
    {query : StockListRequest} {row : StockRow} (onPage : row ∈ db.pageOf collates query) :
    row ∈ db.listed query :=
  (List.mergeSort_perm _ _).mem_iff.mp (mem_of_mem_pageAt onPage)

/-- The pages a reader counts together show each line asked for once. -/
theorem pages_perm_listed (db : FulfillmentDb) (collates : String → String → Bool)
    (query : StockListRequest) (positive : 0 < query.pageSize.getD defaultPageSize) :
    ((List.range (totalPages (db.list collates query).page)).flatMap fun page =>
      db.pageOf collates { query with page := some (page + 1) }).Perm
        (db.listed query) := by
  have sorted := List.mergeSort_perm (db.listed query) (byCompanyAndProduct collates)
  have enough : ((db.listed query).mergeSort (byCompanyAndProduct collates)).length ≤
      totalPages (db.list collates query).page *
        query.pageSize.getD defaultPageSize := by
    rw [sorted.length_eq]
    exact @le_totalPages_mul (db.list collates query).page positive
  have shown := flatMap_pageAt (query.pageSize.getD defaultPageSize)
    (totalPages (db.list collates query).page)
    ((db.listed query).mergeSort (byCompanyAndProduct collates))
  rw [List.take_of_length_le enough] at shown
  change List.flatMap _ _ = _ at shown
  exact (List.Perm.of_eq shown).trans sorted

/-! ## What the orders have of a line -/

/-- The reservation is on a stock row, in a status. -/
def IsOn (stockId : UniqueId) (status : ReservationStatus) (row : ReservationRow) : Bool :=
  decide (row.stockId = stockId) && decide (row.reservation.status = status)

theorem isOn_reserved (stockId : UniqueId) :
    IsOn stockId .reserved = IsReservedOn stockId := by
  funext row
  simp [IsOn, IsReservedOn]

theorem isOn_consumed (stockId : UniqueId) :
    IsOn stockId .consumed = IsConsumedOn stockId := by
  funext row
  simp [IsOn, IsConsumedOn, IsConsumed]

/-- The units of some reservations are those of their orders. -/
theorem unitsWhere_by_order (db : FulfillmentDb) (selected : ReservationRow → Bool)
    {orders : List OrderNumber} (distinct : orders.Nodup)
    (listed : ∀ row ∈ db.reservations, row.reservation.orderReference ∈ orders) :
    unitsWhere selected db.reservations =
      (orders.map fun order => unitsWhere selected (db.reservationsOf order)).sum := by
  have byOrder := sum_map_by_key
    (fun row : ReservationRow => row.reservation.orderReference)
    (fun row => (row.reservation.units.value : Int)) distinct
    (fun row rowMem => listed row (List.mem_of_mem_filter rowMem) :
      ∀ row ∈ db.reservations.filter selected, row.reservation.orderReference ∈ orders)
  simp only [unitsWhere, unitsOf, List.map_map, Function.comp_def]
  rw [byOrder]
  congr 1
  apply List.map_congr_left
  intro order _
  rw [reservationsOf, List.filter_filter, List.filter_filter]
  simp only [ReservationRow.IsOf, Bool.and_comm]
  rfl

/-- An order whose reservations are of one status has all its units of a product
on the line of it. -/
theorem unitsWhere_isOn {db : FulfillmentDb} (keyed : db.WellKeyed) {line : StockRow}
    (lineMem : line ∈ db.stock) {order : OrderNumber} {companyCode : String}
    {lines : List StockReserveLine} (serves : db.ServesOnly order companyCode lines)
    (uniform : (db.orderStock order).Uniform) (status : ReservationStatus) :
    unitsWhere (IsOn line.id status) (db.reservationsOf order) =
      if companyCode = line.companyCode ∧ (db.orderStock order).phase = some status then
        (db.orderStock order).reservationUnits line.productCode
      else 0 := by
  have onLine : ∀ row ∈ db.reservationsOf order, row.stockId = line.id ↔
      row.reservation.companyCode = line.companyCode ∧
        row.reservation.productCode = line.productCode := by
    intro row rowMem
    rcases keyed.onStock row (mem_reservationsOf.mp rowMem).1 with
      ⟨stockRow, stored, sameId, company, product⟩
    rw [← sameId, ← company, ← product]
    constructor
    · intro same
      rw [List.inj_on_of_nodup_map keyed.stockIds stored lineMem same]
      exact ⟨rfl, rfl⟩
    · rintro ⟨sameCompany, sameProduct⟩
      rw [List.inj_on_of_nodup_map keyed.stockKeys stored lineMem
        (Prod.ext sameCompany sameProduct)]
  by_cases here : companyCode = line.companyCode ∧
      (db.orderStock order).phase = some status
  · rw [if_pos here, OrderStock.reservationUnits, unitsWhere, List.filter_map]
    congr 2
    apply List.filter_congr
    intro row rowMem
    have ofStatus := (uniform row rowMem).symm.trans here.2
    have ofCompany := (serves row rowMem).1.trans here.1
    simp [IsOn, onLine row rowMem, Option.some.inj ofStatus, ofCompany]
  · rw [if_neg here]
    apply unitsWhere_eq_zero
    intro row rowMem
    by_contra isOn
    have on := of_decide_eq_true (Bool.and_eq_true_iff.mp (Bool.of_not_eq_false isOn)).1
    have inStatus :=
      of_decide_eq_true (Bool.and_eq_true_iff.mp (Bool.of_not_eq_false isOn)).2
    apply here
    rw [uniform row rowMem, inStatus, ← (serves row rowMem).1]
    exact ⟨((onLine row rowMem).mp on).1, rfl⟩

end FulfillmentDb

end OrderToCash.Fulfillment
