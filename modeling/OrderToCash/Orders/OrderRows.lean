import OrderToCash.Orders.AggregateInvariant
import OrderToCash.Orders.Store
import OrderToCash.Table.Upsert

/-!
# Orders as rows

The `orders` and `order_items` tables column by column, and what the repository
does to them.  A new order is inserted whole; a known one is updated in three
columns, and its lines are upserted one by one.  The aggregate names its
currency, parties and products by code, the rows by identifier; a code is looked
up by the collation of its column, and comes back as the reference table spells
it.
-/

namespace OrderToCash.Orders

open OrderToCash.Checked
open OrderToCash.Contracts
open OrderToCash.Kernel
open OrderToCash.Table

/-- A row of a reference table. -/
structure ReferenceRow where
  id : UniqueId
  code : String
deriving DecidableEq, Repr

/-- A reference table.  Its column compares codes by the weight its collation
gives them; identifiers are unique, and so are codes to the column. -/
structure ReferenceTable where
  rows : List ReferenceRow
  weight : String → String
  ids : (rows.map ReferenceRow.id).Nodup
  codes : (rows.map fun row => weight row.code).Nodup

namespace ReferenceTable

/-- The row whose code the column finds equal to a code. -/
def find (table : ReferenceTable) (code : String) : Option ReferenceRow :=
  table.rows.find? fun row => table.weight row.code = table.weight code

def idOf (table : ReferenceTable) (code : String) : Option UniqueId :=
  (table.find code).map ReferenceRow.id

/-- How the table spells a code. -/
def spelling (table : ReferenceTable) (code : String) : Option String :=
  (table.find code).map ReferenceRow.code

/-- The identifier of a code that is spelled as in the table. -/
def idOfSpelled (table : ReferenceTable) (code : String) : Option UniqueId :=
  (table.rows.find? (·.code = code)).map ReferenceRow.id

def codeOf (table : ReferenceTable) (id : UniqueId) : Option String :=
  (table.rows.find? (·.id = id)).map ReferenceRow.code

end ReferenceTable

structure ReferenceTables where
  currencies : ReferenceTable
  retailers : ReferenceTable
  companies : ReferenceTable
  products : ReferenceTable

/-- A row of `orders`. -/
structure OrdersTableRow where
  id : OrderNumber
  requestId : Option String
  companyId : UniqueId
  retailerId : UniqueId
  currencyId : UniqueId
  initialAmount : Int
  initialDiscount : Int
  totalAmount : Int
  status : OrderStatus
  cancellationReason : Option CancellationReason
  notes : Option String
deriving DecidableEq, Repr

/-- A row of `order_items`. -/
structure OrderItemsTableRow where
  id : UniqueId
  orderId : OrderNumber
  productId : UniqueId
  description : String
  price : Int
  quantity : Quantity
  discount : Int
deriving DecidableEq, Repr

structure OrderTables where
  orders : List OrdersTableRow
  orderItems : List OrderItemsTableRow
  outbox : List Fact

/-- Which rows the column types take; others are refused by the database. -/
structure ColumnTypes where
  order : OrdersTableRow → Bool
  item : OrderItemsTableRow → Bool

inductive SaveError
  | unknownCurrency (code : String)
  | unknownRetailer (code : String)
  | unknownCompany (code : String)
  | unknownProduct (code : String)
  | duplicateEntry
  | dataOutOfRange
deriving DecidableEq, Repr

/-! ## The mapper -/

structure OrderRowIds where
  companyId : UniqueId
  retailerId : UniqueId
  currencyId : UniqueId
deriving DecidableEq, Repr

def toOrdersTableRow (order : Order) (ids : OrderRowIds)
    (requestId : Option String) : OrdersTableRow :=
  { id := order.props.orderReference
    requestId := requestId
    companyId := ids.companyId
    retailerId := ids.retailerId
    currencyId := ids.currencyId
    initialAmount := order.props.initialAmount.amount
    initialDiscount := order.props.initialDiscount.amount
    totalAmount := order.props.totalAmount.amount
    status := order.props.status
    cancellationReason := order.props.cancellationReason
    notes := order.props.notes }

def toOrderItemsTableRow (order : OrderNumber) (line : OrderLine)
    (productId : UniqueId) : OrderItemsTableRow :=
  { id := line.id
    orderId := order
    productId := productId
    description := line.description
    price := line.unitPrice.amount
    quantity := line.quantity
    discount := line.lineDiscount.amount }

/-- One row for each line; a product no row resolves is refused. -/
def toOrderItemsTableRows (order : Order)
    (productIdByCode : String → Option UniqueId) :
    Except SaveError (List OrderItemsTableRow) :=
  order.props.lines.mapM fun line =>
    match productIdByCode line.productCode with
    | none => .error (.unknownProduct line.productCode)
    | some productId =>
        .ok (toOrderItemsTableRow order.props.orderReference line productId)

/-- An item row joined to the code of its product. -/
structure OrderItemRowWithCode where
  id : UniqueId
  productCode : String
  description : String
  price : Int
  quantity : Quantity
  discount : Int
deriving DecidableEq, Repr

/-- An order row joined to its three reference tables. -/
structure OrderRowWithCodes where
  id : OrderNumber
  retailerCode : String
  companyCode : String
  currencyCode : String
  status : OrderStatus
  cancellationReason : Option CancellationReason
  notes : Option String
deriving DecidableEq, Repr

/-- The line of an item.  The amounts of the integer columns are safe. -/
def toOrderLineSnapshot (currency : String) (item : OrderItemRowWithCode) :
    Except KernelError OrderLine := do
  let code ← validateCurrency currency
  .ok
    { id := item.id
      productCode := item.productCode
      description := item.description
      quantity := item.quantity
      unitPrice := ⟨item.price, code⟩
      lineDiscount := ⟨item.discount, code⟩ }

/-- Stands where a snapshot has no total; rebuilding an order derives its own. -/
def noTotal : Money := ⟨0, .eur⟩

/-- The snapshot of joined rows. -/
def toOrderSnapshot (row : OrderRowWithCodes) (items : List OrderItemRowWithCode) :
    Except KernelError OrderProps := do
  let lines ← items.mapM (toOrderLineSnapshot row.currencyCode)
  .ok
    { orderReference := row.id
      retailerCode := row.retailerCode
      companyCode := row.companyCode
      currency := row.currencyCode
      lines := lines
      initialAmount := noTotal
      initialDiscount := noTotal
      totalAmount := noTotal
      status := row.status
      cancellationReason := row.cancellationReason
      notes := row.notes }

/-! ## The repository -/

/-- The products the column finds for some codes, by their own codes. -/
def productIdByCode (refs : ReferenceTables) (productCodes : List String)
    (code : String) : Option UniqueId :=
  ((refs.products.rows.filter fun row =>
      productCodes.any fun listed =>
        refs.products.weight row.code = refs.products.weight listed).find?
    (·.code = code)).map ReferenceRow.id

/-- The columns the upsert of an item sets. -/
def mergeItemRow (existing row : OrderItemsTableRow) : OrderItemsTableRow :=
  { existing with
    description := row.description
    price := row.price
    quantity := row.quantity
    discount := row.discount }

/-- The columns the update of an order sets. -/
def updateOrdersRow (existing row : OrdersTableRow) : OrdersTableRow :=
  { existing with
    status := row.status
    cancellationReason := row.cancellationReason
    notes := row.notes }

namespace OrderTables

/-- The genuine insert: a collision on a unique key is an error. -/
def insertOrder (columns : ColumnTypes) (orders : List OrdersTableRow)
    (row : OrdersTableRow) : Except SaveError (List OrdersTableRow) :=
  if columns.order row = false then
    .error .dataOutOfRange
  else if orders.any (fun other => other.id = row.id ∨
      (row.requestId.isSome ∧ other.requestId = row.requestId)) then
    .error .duplicateEntry
  else
    .ok (orders ++ [row])

/-- The update of the row with the order's key. -/
def updateOrder (columns : ColumnTypes) (orders : List OrdersTableRow)
    (row : OrdersTableRow) : Except SaveError (List OrdersTableRow) :=
  if (orders.filter (·.id = row.id)).any fun existing =>
      columns.order (updateOrdersRow existing row) = false then
    .error .dataOutOfRange
  else
    .ok (orders.map (updateRow OrdersTableRow.id updateOrdersRow row))

/-- The fork of a save: a new order is inserted, a known one updated. -/
def writeOrder (isNewOrder : Bool) (columns : ColumnTypes)
    (orders : List OrdersTableRow) (row : OrdersTableRow) :
    Except SaveError (List OrdersTableRow) :=
  if isNewOrder then insertOrder columns orders row
  else updateOrder columns orders row

/-- The identifier of a code, or the error a missing one throws. -/
def resolve (table : ReferenceTable) (unknown : String → SaveError)
    (code : String) : Except SaveError UniqueId :=
  match table.idOf code with
  | none => .error (unknown code)
  | some id => .ok id

/-- `DrizzleOrderRepository.save`; a creation fact among the pending ones makes
it an insert. -/
def save (columns : ColumnTypes) (refs : ReferenceTables) (tables : OrderTables)
    (order : Order) (requestId : Option String) : Except SaveError OrderTables := do
  let events := order.domainEvents
  let isNewOrder := events.any (·.eventType = .orderPlaced)
  let currencyId ←
    resolve refs.currencies .unknownCurrency order.props.currency
  let retailerId ←
    resolve refs.retailers .unknownRetailer order.props.retailerCode
  let companyId ←
    resolve refs.companies .unknownCompany order.props.companyCode
  let productCodes := (order.props.lines.map OrderLine.productCode).eraseDups
  let orderRow := toOrdersTableRow order ⟨companyId, retailerId, currencyId⟩
    requestId
  let orders ← writeOrder isNewOrder columns tables.orders orderRow
  let itemRows ← toOrderItemsTableRows order (productIdByCode refs productCodes)
  if itemRows.all columns.item = false then
    .error .dataOutOfRange
  else
    .ok
      { orders := orders
        orderItems :=
          upsertAll OrderItemsTableRow.id mergeItemRow tables.orderItems itemRows
        outbox := tables.outbox ++ events }

/-- The item rows of an order, joined to their products. -/
def joinedItems (refs : ReferenceTables) (tables : OrderTables)
    (order : OrderNumber) : List OrderItemRowWithCode :=
  (tables.orderItems.filter (·.orderId = order)).filterMap fun item =>
    (refs.products.codeOf item.productId).map fun productCode =>
      { id := item.id
        productCode := productCode
        description := item.description
        price := item.price
        quantity := item.quantity
        discount := item.discount }

/-- The order row with a key, joined to its references. -/
def joinedOrder (refs : ReferenceTables) (tables : OrderTables)
    (order : OrderNumber) : Option OrderRowWithCodes := do
  let row ← tables.orders.find? (·.id = order)
  let retailerCode ← refs.retailers.codeOf row.retailerId
  let companyCode ← refs.companies.codeOf row.companyId
  let currencyCode ← refs.currencies.codeOf row.currencyId
  pure
    { id := row.id
      retailerCode := retailerCode
      companyCode := companyCode
      currencyCode := currencyCode
      status := row.status
      cancellationReason := row.cancellationReason
      notes := row.notes }

/-- `DrizzleOrderRepository.findById`, with the joined items in whatever order
the database returns them. -/
def findById (refs : ReferenceTables) (tables : OrderTables) (order : OrderNumber)
    (items : List OrderItemRowWithCode) : Except OrderError (Option Order) :=
  match tables.joinedOrder refs order with
  | none => .ok none
  | some row => do
      let snapshot ← (toOrderSnapshot row items).mapError OrderError.kernel
      let loaded ← Order.reconstitute snapshot
      .ok (some loaded)

end OrderTables

end OrderToCash.Orders
