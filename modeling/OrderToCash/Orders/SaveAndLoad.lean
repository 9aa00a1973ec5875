import OrderToCash.Orders.OrderRows
import OrderToCash.Orders.OrderSums

/-!
# Saving an order and loading it

An order is inserted when it is placed and updated after each of its later
operations.  What its rows hold then is every line it ever had, the removed
ones as they last were, and the totals it was inserted with; loading derives
the totals from the lines that come back.
-/

namespace OrderToCash.Orders

open OrderToCash.Checked
open OrderToCash.Contracts
open OrderToCash.Kernel
open OrderToCash.Table

/-! ## References -/

namespace ReferenceTable

/-- The identifier of a row has the row's code. -/
theorem codeOf_of_mem {table : ReferenceTable} {row : ReferenceRow}
    (stored : row ∈ table.rows) : table.codeOf row.id = some row.code := by
  unfold codeOf
  cases again : table.rows.find? (·.id = row.id) with
  | none =>
      rw [List.find?_eq_none] at again
      exact absurd (decide_eq_true rfl) (again row stored)
  | some other =>
      have same := List.find?_some again
      rw [List.inj_on_of_nodup_map table.ids (List.mem_of_find?_eq_some again)
        stored (of_decide_eq_true same), Option.map_some]

/-- An identifier that a code resolves to has the code as the table spells it. -/
theorem codeOf_of_idOf {table : ReferenceTable} {code : String} {id : UniqueId}
    (resolved : table.idOf code = some id) :
    ∃ spelled, table.spelling code = some spelled ∧ table.codeOf id = some spelled := by
  obtain ⟨row, found, rfl⟩ := Option.map_eq_some_iff.mp resolved
  exact ⟨row.code, Option.map_eq_some_iff.mpr ⟨row, found, rfl⟩,
    codeOf_of_mem (List.mem_of_find?_eq_some found)⟩

theorem codeOf_of_idOfSpelled {table : ReferenceTable} {code : String}
    {id : UniqueId} (resolved : table.idOfSpelled code = some id) :
    table.codeOf id = some code := by
  obtain ⟨row, found, rfl⟩ := Option.map_eq_some_iff.mp resolved
  have named := List.find?_some found
  rw [codeOf_of_mem (List.mem_of_find?_eq_some found)]
  exact congrArg some (of_decide_eq_true named)

end ReferenceTable

/-- The products that are looked up are found as in the whole table. -/
theorem productIdByCode_of_mem {refs : ReferenceTables} {codes : List String}
    {code : String} (listed : code ∈ codes) :
    productIdByCode refs codes code = refs.products.idOfSpelled code := by
  unfold productIdByCode ReferenceTable.idOfSpelled
  rw [List.find?_filter]
  congr 2
  funext row
  by_cases same : row.code = code
  · have found : codes.any (fun other =>
        refs.products.weight row.code = refs.products.weight other) = true := by
      rw [List.any_eq_true]
      exact ⟨code, listed, by simp [same]⟩
    simp [same, ← found]
  · simp [same]

/-! ## The rows of lines -/

/-- The row a line is written as, where its product is known. -/
def itemRowOf (refs : ReferenceTables) (order : OrderNumber) (line : OrderLine) :
    Option OrderItemsTableRow :=
  (refs.products.idOfSpelled line.productCode).map (toOrderItemsTableRow order line)

/-- The joined row a line is read back from. -/
def joinedRowOf (line : OrderLine) : OrderItemRowWithCode :=
  { id := line.id
    productCode := line.productCode
    description := line.description
    price := line.unitPrice.amount
    quantity := line.quantity
    discount := line.lineDiscount.amount }

/-- The line of an item, in a code. -/
def lineIn (code : CurrencyCode) (item : OrderItemRowWithCode) : OrderLine :=
  { id := item.id
    productCode := item.productCode
    description := item.description
    quantity := item.quantity
    unitPrice := ⟨item.price, code⟩
    lineDiscount := ⟨item.discount, code⟩ }

/-- Items are read in the upper case of their order's currency. -/
theorem mapM_toOrderLineSnapshot {currency : String} {code : CurrencyCode}
    (validated : validateCurrency currency = .ok code)
    (items : List OrderItemRowWithCode) :
    items.mapM (toOrderLineSnapshot currency) = .ok (items.map (lineIn code)) := by
  apply mapM_eq_ok
  intro item _
  rw [toOrderLineSnapshot, validated]
  rfl

/-- A line in that code is read back as it is. -/
theorem lineIn_joinedRowOf {code : CurrencyCode} {line : OrderLine}
    (price : line.unitPrice.currency = code)
    (discount : line.lineDiscount.currency = code) :
    lineIn code (joinedRowOf line) = line := by
  cases line with
  | mk id productCode description quantity unitPrice lineDiscount =>
      cases unitPrice
      cases lineDiscount
      cases price
      cases discount
      rfl

theorem map_itemRowOf_of_rows {refs : ReferenceTables} {order : OrderNumber}
    {productIds : String → Option UniqueId} {lines : List OrderLine}
    (known : ∀ line ∈ lines,
      productIds line.productCode = refs.products.idOfSpelled line.productCode)
    {rows : List OrderItemsTableRow}
    (mapped : (lines.mapM fun line =>
      match productIds line.productCode with
      | none => (.error (.unknownProduct line.productCode) :
          Except SaveError OrderItemsTableRow)
      | some productId => .ok (toOrderItemsTableRow order line productId)) =
        .ok rows) :
    rows.map some = lines.map (itemRowOf refs order) := by
  induction lines generalizing rows with
  | nil =>
      cases mapped
      rfl
  | cons line rest inductionHypothesis =>
      rw [List.mapM_cons, bind_eq_ok_iff] at mapped
      obtain ⟨row, first, mapped⟩ := mapped
      rw [bind_eq_ok_iff] at mapped
      obtain ⟨others, later, collected⟩ := mapped
      cases collected
      have sameProduct := known line List.mem_cons_self
      rw [List.map_cons, List.map_cons, inductionHypothesis
        (fun other otherMem => known other (List.mem_cons_of_mem line otherMem))
        later, itemRowOf, ← sameProduct]
      cases resolved : productIds line.productCode with
      | none =>
          rw [resolved] at first
          cases first
      | some productId =>
          rw [resolved] at first
          cases first
          rfl

/-- The rows a save writes are the rows of the order's lines. -/
theorem map_itemRowOf {refs : ReferenceTables} {order : Order}
    {rows : List OrderItemsTableRow}
    (mapped : toOrderItemsTableRows order (productIdByCode refs
      (order.props.lines.map OrderLine.productCode).eraseDups) = .ok rows) :
    rows.map some =
      order.props.lines.map (itemRowOf refs order.props.orderReference) := by
  apply map_itemRowOf_of_rows _ mapped
  intro line lineMem
  apply productIdByCode_of_mem
  rw [List.mem_eraseDups]
  exact List.mem_map_of_mem lineMem

/-! ## Writing lines back -/

theorem id_mergeItemRow (existing row : OrderItemsTableRow)
    (_ : existing.id = row.id) : (mergeItemRow existing row).id = existing.id :=
  rfl

/-- A row that is written is the row of a line that is. -/
theorem exists_of_mem_rows {refs : ReferenceTables} {order : OrderNumber}
    {rows : List OrderItemsTableRow} {written : List OrderLine}
    (rowsOf : rows.map some = written.map (itemRowOf refs order))
    {row : OrderItemsTableRow} (rowMem : row ∈ rows) :
    ∃ line ∈ written, itemRowOf refs order line = some row := by
  have listed : some row ∈ written.map (itemRowOf refs order) := by
    rw [← rowsOf]
    exact List.mem_map_of_mem rowMem
  exact List.mem_map.mp listed

theorem id_of_itemRowOf {refs : ReferenceTables} {order : OrderNumber}
    {line : OrderLine} {row : OrderItemsTableRow}
    (isRow : itemRowOf refs order line = some row) :
    row.id = line.id ∧ row.orderId = order := by
  obtain ⟨productId, _, rfl⟩ := Option.map_eq_some_iff.mp isRow
  exact ⟨rfl, rfl⟩

/-- A version of a line after a save: the line that was written in its place, or
the line itself where none was. -/
structure LineVersion (written : List OrderLine) (line later : OrderLine) : Prop where
  id : later.id = line.id
  productCode : later.productCode = line.productCode
  origin : later ∈ written ∨
    later = line ∧ line.id ∉ written.map OrderLine.id

/-- Writing the rows of lines turns the row of a line into that of its version. -/
theorem updateRows_itemRowOf {refs : ReferenceTables} {order : OrderNumber}
    {line later : OrderLine} {rows : List OrderItemsTableRow}
    {written : List OrderLine}
    (rowsOf : rows.map some = written.map (itemRowOf refs order))
    (distinct : (rows.map OrderItemsTableRow.id).Nodup)
    (version : LineVersion written line later) :
    (itemRowOf refs order line).map
        (updateRows OrderItemsTableRow.id mergeItemRow rows) =
      itemRowOf refs order later := by
  unfold itemRowOf
  rw [version.productCode]
  cases resolved : refs.products.idOfSpelled line.productCode with
  | none => rfl
  | some productId =>
      simp only [Option.map_some]
      congr 1
      rcases version.origin with isWritten | ⟨rfl, unwritten⟩
      · have rowMem : toOrderItemsTableRow order later productId ∈ rows := by
          have listed := List.mem_map_of_mem (f := itemRowOf refs order) isWritten
          rw [← rowsOf, itemRowOf, version.productCode, resolved] at listed
          obtain ⟨row, rowMem, same⟩ := List.mem_map.mp listed
          exact Option.some.inj same ▸ rowMem
        rw [updateRows_of_mem id_mergeItemRow distinct rowMem version.id.symm]
        simp only [mergeItemRow, toOrderItemsTableRow, version.id]
      · apply updateRows_of_key_notMem
        intro listed
        obtain ⟨row, rowMem, sameId⟩ := List.mem_map.mp listed
        obtain ⟨other, otherMem, isRow⟩ := exists_of_mem_rows rowsOf rowMem
        apply unwritten
        rw [List.mem_map]
        exact ⟨other, otherMem, (id_of_itemRowOf isRow).1.symm.trans sameId⟩

theorem orderId_updateRows (rows : List OrderItemsTableRow)
    (row : OrderItemsTableRow) :
    (updateRows OrderItemsTableRow.id mergeItemRow rows row).orderId =
      row.orderId := by
  induction rows generalizing row with
  | nil => rfl
  | cons first rest inductionHypothesis =>
      rw [updateRows, inductionHypothesis, updateRow]
      split <;> rfl

/-- Writing lines that are stored turns each stored line into its version, and
adds no row. -/
theorem items_of_versions {refs : ReferenceTables} {order : OrderNumber}
    {table rows : List OrderItemsTableRow} {stored written : List OrderLine}
    {version : OrderLine → OrderLine}
    (isStored : ((table.filter (·.orderId = order)).map some).Perm
      (stored.map (itemRowOf refs order)))
    (rowsOf : rows.map some = written.map (itemRowOf refs order))
    (distinct : (rows.map OrderItemsTableRow.id).Nodup)
    (known : ∀ line ∈ written, line.id ∈ stored.map OrderLine.id)
    (versions : ∀ line ∈ stored, LineVersion written line (version line)) :
    upsertAll OrderItemsTableRow.id mergeItemRow table rows =
        table.map (updateRows OrderItemsTableRow.id mergeItemRow rows) ∧
      (((table.map (updateRows OrderItemsTableRow.id mergeItemRow rows)).filter
          (·.orderId = order)).map some).Perm
        ((stored.map version).map (itemRowOf refs order)) := by
  constructor
  · apply upsertAll_eq_map id_mergeItemRow
    intro row rowMem
    obtain ⟨line, lineMem, isRow⟩ := exists_of_mem_rows rowsOf rowMem
    obtain ⟨before, beforeMem, sameId⟩ := List.mem_map.mp (known line lineMem)
    have listed := isStored.mem_iff.mpr
      (List.mem_map_of_mem (f := itemRowOf refs order) beforeMem)
    obtain ⟨existing, existingMem, isExisting⟩ := List.mem_map.mp listed
    rw [List.mem_map]
    refine ⟨existing, (List.mem_filter.mp existingMem).1, ?_⟩
    rw [(id_of_itemRowOf isExisting.symm).1, sameId, (id_of_itemRowOf isRow).1]
  · rw [List.filter_map, List.map_map]
    have filtered : table.filter ((fun row => decide (row.orderId = order)) ∘
        updateRows OrderItemsTableRow.id mergeItemRow rows) =
          table.filter (·.orderId = order) := by
      apply List.filter_congr
      intro row _
      simp only [Function.comp_apply, orderId_updateRows]
    rw [filtered]
    have mapped := isStored.map
      (Option.map (updateRows OrderItemsTableRow.id mergeItemRow rows))
    rw [List.map_map, List.map_map] at mapped
    rw [List.map_map]
    refine mapped.trans (List.Perm.of_eq (List.map_congr_left fun line lineMem => ?_))
    exact updateRows_itemRowOf rowsOf distinct (versions line lineMem)

/-- Every line whose row is among some rows has one. -/
theorem isSome_itemRowOf {refs : ReferenceTables} {order : OrderNumber}
    {rows : List OrderItemsTableRow} {lines : List OrderLine}
    (isStored : (rows.map some).Perm (lines.map (itemRowOf refs order))) :
    ∀ line ∈ lines, (itemRowOf refs order line).map OrderItemsTableRow.id =
      some line.id := by
  intro line lineMem
  have listed := isStored.mem_iff.mpr
    (List.mem_map_of_mem (f := itemRowOf refs order) lineMem)
  obtain ⟨row, _, isRow⟩ := List.mem_map.mp listed
  rw [← isRow, Option.map_some, (id_of_itemRowOf isRow.symm).1]

/-- The identifiers of rows are those of their lines. -/
theorem ids_perm {refs : ReferenceTables} {order : OrderNumber}
    {rows : List OrderItemsTableRow} {lines : List OrderLine}
    (isStored : (rows.map some).Perm (lines.map (itemRowOf refs order))) :
    (rows.map OrderItemsTableRow.id).Perm (lines.map OrderLine.id) := by
  have mapped := isStored.map (Option.map OrderItemsTableRow.id)
  rw [List.map_map, List.map_map] at mapped
  have ofLines : lines.map (Option.map OrderItemsTableRow.id ∘ itemRowOf refs order) =
      (lines.map OrderLine.id).map some := by
    rw [List.map_map]
    exact List.map_congr_left fun line lineMem => isSome_itemRowOf isStored line lineMem
  have ofRows : rows.map (Option.map OrderItemsTableRow.id ∘ some) =
      (rows.map OrderItemsTableRow.id).map some := by
    rw [List.map_map]
    rfl
  rw [ofLines, ofRows] at mapped
  exact (List.map_perm_map_iff fun _ _ => Option.some.inj).mp mapped

/-! ## What an operation does to the lines -/

/-- The lines after an operation that is accepted. -/
def linesAfter : OrderOperation → List OrderLine → List OrderLine
  | .addLine newId input, lines =>
      lines ++
        [{ id := newId
           productCode := input.productCode
           description := input.description
           quantity := input.quantity
           unitPrice := input.unitPrice
           lineDiscount := input.lineDiscount }]
  | .removeLine lineId, lines => lines.filter fun line => ¬ line.id = lineId
  | .changeLineQuantity lineId quantity, lines =>
      lines.map fun line =>
        if line.id = lineId then line.withQuantity quantity else line
  | _, lines => lines

/-- The lines an operation takes away. -/
def removedBy : OrderOperation → List OrderLine → List OrderLine
  | .removeLine lineId, lines => lines.filter fun line => line.id = lineId
  | _, _ => []

/-- What no operation changes. -/
structure SameHeader (order order' : Order) : Prop where
  orderReference : order'.props.orderReference = order.props.orderReference
  retailerCode : order'.props.retailerCode = order.props.retailerCode
  companyCode : order'.props.companyCode = order.props.companyCode
  currency : order'.props.currency = order.props.currency

theorem sameHeader_of_change {order order' : Order}
    (change : Order.Change order order') : SameHeader order order' := by
  cases change with
  | lines lines mutable notEmpty replaced =>
      obtain ⟨totals, _, rfl⟩ := Order.replaceLines_eq_ok replaced
      exact ⟨rfl, rfl, rfl, rfl⟩
  | moved target edge notCancelled props =>
      constructor <;> rw [props]
  | cancelled reason admitted props =>
      constructor <;> rw [props]
  | kept props =>
      constructor <;> rw [props]

theorem lines_of_replaceLines {order order' : Order} {lines : List OrderLine}
    (replaced : order.replaceLines lines = .ok order') :
    order'.props.lines = lines ∧ order'.domainEvents = order.domainEvents := by
  obtain ⟨totals, _, rfl⟩ := Order.replaceLines_eq_ok replaced
  exact ⟨rfl, rfl⟩

/-- A transition leaves the lines, and its fact is not that of a placement. -/
theorem lines_of_transitionTo {order order' : Order} {target : OrderStatus}
    {reason : Option CancellationReason} {buildEvent : Option (OrderProps → Fact)}
    (later : ∀ build ∈ buildEvent, ∀ props, (build props).eventType ≠ .orderPlaced)
    (moved : order.transitionTo target reason buildEvent = .ok order') :
    order'.props.lines = order.props.lines ∧
      ∀ fact ∈ order'.domainEvents, fact ∈ order.domainEvents ∨
        fact.eventType ≠ .orderPlaced := by
  have props := (Order.transitionTo_eq_ok moved).2
  refine ⟨by rw [props], ?_⟩
  unfold Order.transitionTo at moved
  cases found : findTransition order.props.status target with
  | none => simp [found] at moved
  | some transition =>
      simp only [found] at moved
      split at moved
      · cases moved
        intro fact factMem
        rcases List.mem_append.mp factMem with old | new
        · exact Or.inl old
        · rw [List.mem_singleton.mp new]
          exact Or.inr (later _ rfl _)
      · cases moved
        exact fun fact factMem => Or.inl factMem

/-- What an accepted operation leaves: its lines, and no fact of a placement. -/
theorem lines_of_perform {order order' : Order} {operation : OrderOperation}
    (performed : order.perform operation = .ok order') :
    order'.props.lines = linesAfter operation order.props.lines ∧
      ∀ fact ∈ order'.domainEvents, fact ∈ order.domainEvents ∨
        fact.eventType ≠ .orderPlaced := by
  have silent : ∀ {target}, order.transitionTo target none none = .ok order' →
      order'.props.lines = order.props.lines ∧
        ∀ fact ∈ order'.domainEvents, fact ∈ order.domainEvents ∨
          fact.eventType ≠ .orderPlaced := fun moved =>
    lines_of_transitionTo (fun _ absent => by cases absent) moved
  have announced : ∀ {target reason build}, (∀ props : OrderProps,
        Fact.eventType (build props) ≠ .orderPlaced) →
      order.transitionTo target reason (some build) = .ok order' →
        order'.props.lines = order.props.lines ∧
          ∀ fact ∈ order'.domainEvents, fact ∈ order.domainEvents ∨
            fact.eventType ≠ .orderPlaced := fun other moved =>
    lines_of_transitionTo (fun _ given => by cases given; exact other) moved
  have replaced : ∀ {lines}, order.replaceLines lines = .ok order' →
      order'.props.lines = lines ∧
        ∀ fact ∈ order'.domainEvents, fact ∈ order.domainEvents ∨
          fact.eventType ≠ .orderPlaced := by
    intro lines replaced
    obtain ⟨same, events⟩ := lines_of_replaceLines replaced
    exact ⟨same, fun fact factMem => Or.inl (events ▸ factMem)⟩
  cases operation with
  | addLine newId input =>
      simp only [Order.perform, Order.addLine, bind_eq_ok_iff] at performed
      obtain ⟨_, _, _, _, performed⟩ := performed
      exact replaced performed
  | removeLine lineId =>
      simp only [Order.perform, Order.removeLine, bind_eq_ok_iff,
        ite_error_eq_ok_iff] at performed
      obtain ⟨_, _, _, _, performed⟩ := performed
      exact replaced performed
  | changeLineQuantity lineId quantity =>
      simp only [Order.perform, Order.changeLineQuantity, bind_eq_ok_iff,
        ite_error_eq_ok_iff] at performed
      obtain ⟨_, _, _, performed⟩ := performed
      exact replaced performed
  | markStockReserved | approveCredit | markDespatched | markInvoiced
  | markPaid => exact silent performed
  | confirm => exact announced (fun _ => by simp [orderConfirmedEvent, Fact.eventType]) performed
  | complete => exact announced (fun _ => by simp [orderCompletedEvent, Fact.eventType]) performed
  | cancel reason compensationSteps =>
      simp only [Order.perform, Order.cancelUnchecked] at performed
      split at performed
      · cases performed
      · split at performed
        · cases performed
        · simp only [Order.cancel, ite_error_eq_ok_iff] at performed
          obtain ⟨_, _, _, performed⟩ := performed
          exact announced
            (fun _ => by simp [orderCancelledEvent, Fact.eventType]) performed
  | recordSagaFailure input =>
      cases performed
      refine ⟨rfl, fun fact factMem => ?_⟩
      rcases List.mem_append.mp factMem with old | new
      · exact Or.inl old
      · rw [List.mem_singleton.mp new]
        exact Or.inr (by simp [orderSagaFailedEvent, Fact.eventType])

/-! ## What is stored of an order -/

namespace OrderTables

/-- The keys of the tables: identifiers are unique, and an item is on an order
that is stored. -/
structure Keyed (tables : OrderTables) : Prop where
  items : (tables.orderItems.map OrderItemsTableRow.id).Nodup
  onOrder : ∀ item ∈ tables.orderItems,
    item.orderId ∈ tables.orders.map OrdersTableRow.id

/-- The columns of an order row: its references resolve the order's codes, its
state is the order's, its totals those of the order as it was placed. -/
structure RowOf (refs : ReferenceTables) (placed order : Order)
    (row : OrdersTableRow) : Prop where
  id : row.id = order.props.orderReference
  retailer : refs.retailers.idOf order.props.retailerCode = some row.retailerId
  company : refs.companies.idOf order.props.companyCode = some row.companyId
  currency : refs.currencies.idOf order.props.currency = some row.currencyId
  status : row.status = order.props.status
  cancellationReason : row.cancellationReason = order.props.cancellationReason
  notes : row.notes = order.props.notes
  initialAmount : row.initialAmount = placed.props.initialAmount.amount
  initialDiscount : row.initialDiscount = placed.props.initialDiscount.amount
  totalAmount : row.totalAmount = placed.props.totalAmount.amount

/-- What the tables hold of an order: its row, and the row of each line it has
and of each line that was removed from it. -/
structure Holds (refs : ReferenceTables) (placed order : Order)
    (removed : List OrderLine) (tables : OrderTables) : Prop where
  sound : order.Sound
  drained : order.domainEvents = []
  keyed : tables.Keyed
  row : ∃ row, tables.orders.find? (·.id = order.props.orderReference) =
    some row ∧ RowOf refs placed order row
  items : ((tables.orderItems.filter
      (·.orderId = order.props.orderReference)).map some).Perm
    ((order.props.lines ++ removed).map
      (itemRowOf refs order.props.orderReference))

/-- The aggregate once its facts are recorded. -/
def pulled (order : Order) : Order :=
  { order with domainEvents := [] }

/-- Everything a save does. -/
theorem save_eq_ok {columns : ColumnTypes} {refs : ReferenceTables}
    {tables tables' : OrderTables} {order : Order} {requestId : Option String}
    (saved : tables.save columns refs order requestId = .ok tables') :
    ∃ currencyId retailerId companyId itemRows,
      refs.currencies.idOf order.props.currency = some currencyId ∧
      refs.retailers.idOf order.props.retailerCode = some retailerId ∧
      refs.companies.idOf order.props.companyCode = some companyId ∧
      writeOrder (order.domainEvents.any (·.eventType = .orderPlaced)) columns
        tables.orders (toOrdersTableRow order ⟨companyId, retailerId, currencyId⟩
          requestId) = .ok tables'.orders ∧
      itemRows.map some =
        order.props.lines.map (itemRowOf refs order.props.orderReference) ∧
      tables'.orderItems =
        upsertAll OrderItemsTableRow.id mergeItemRow tables.orderItems itemRows := by
  have resolved : ∀ {table unknown code id},
      resolve table unknown code = .ok id → table.idOf code = some id := by
    intro table unknown code id found
    unfold resolve at found
    split at found
    · cases found
    · cases found
      assumption
  simp only [save, bind_eq_ok_iff, ite_error_eq_ok_iff, Except.ok.injEq] at saved
  obtain ⟨currencyId, currency, retailerId, retailer, companyId, company, orders,
    written, itemRows, mapped, _, rfl⟩ := saved
  exact ⟨currencyId, retailerId, companyId, itemRows, resolved currency,
    resolved retailer, resolved company, written, map_itemRowOf mapped, rfl⟩

/-- An insert appends the row of an order that has none. -/
theorem insertOrder_eq_ok {columns : ColumnTypes}
    {orders orders' : List OrdersTableRow} {row : OrdersTableRow}
    (inserted : insertOrder columns orders row = .ok orders') :
    row.id ∉ orders.map OrdersTableRow.id ∧ orders' = orders ++ [row] := by
  simp only [insertOrder, ite_error_eq_ok_iff, Except.ok.injEq] at inserted
  obtain ⟨_, unique, rfl⟩ := inserted
  refine ⟨fun listed => unique ?_, rfl⟩
  obtain ⟨other, otherMem, same⟩ := List.mem_map.mp listed
  rw [List.any_eq_true]
  exact ⟨other, otherMem, by simp [same]⟩

/-- An update changes the row of its order. -/
theorem updateOrder_eq_ok {columns : ColumnTypes}
    {orders orders' : List OrdersTableRow} {row : OrdersTableRow}
    (updated : updateOrder columns orders row = .ok orders') :
    orders' = orders.map (updateRow OrdersTableRow.id updateOrdersRow row) := by
  simp only [updateOrder, ite_error_eq_ok_iff, Except.ok.injEq] at updated
  exact updated.2.symm

/-- The row of an order is found, updated. -/
theorem find?_map_updateRow {orders : List OrdersTableRow}
    {row existing : OrdersTableRow}
    (found : orders.find? (·.id = row.id) = some existing) :
    (orders.map (updateRow OrdersTableRow.id updateOrdersRow row)).find?
        (·.id = row.id) = some (updateOrdersRow existing row) := by
  have sameKey : (fun other : OrdersTableRow => decide (other.id = row.id)) ∘
      updateRow OrdersTableRow.id updateOrdersRow row =
        fun other => decide (other.id = row.id) := by
    funext other
    simp only [Function.comp_apply, updateRow]
    split <;> rfl
  have named := List.find?_some found
  rw [List.find?_map, sameKey, found, Option.map_some, updateRow,
    if_pos (of_decide_eq_true named)]

/-- The first save of an order stores it as it is. -/
theorem holds_inserted {columns : ColumnTypes} {refs : ReferenceTables}
    {tables tables' : OrderTables} {order : Order} {requestId : Option String}
    (sound : order.Sound) (keyed : tables.Keyed)
    (isNew : order.domainEvents.any (·.eventType = .orderPlaced))
    (distinct : (order.props.lines.map OrderLine.id).Nodup)
    (fresh : ∀ line ∈ order.props.lines,
      line.id ∉ tables.orderItems.map OrderItemsTableRow.id)
    (saved : tables.save columns refs order requestId = .ok tables') :
    Holds refs order (pulled order) [] tables' := by
  obtain ⟨currencyId, retailerId, companyId, itemRows, currency, retailer, company,
    written, rowsOf, items⟩ := save_eq_ok saved
  rw [writeOrder, if_pos isNew] at written
  obtain ⟨unstored, orders⟩ := insertOrder_eq_ok written
  have ids := ids_perm (List.Perm.of_eq rowsOf)
  have absent : ∀ row ∈ itemRows,
      row.id ∉ tables.orderItems.map OrderItemsTableRow.id := by
    intro row rowMem
    obtain ⟨line, lineMem, isRow⟩ := exists_of_mem_rows rowsOf rowMem
    rw [(id_of_itemRowOf isRow).1]
    exact fresh line lineMem
  have distinctRows : (itemRows.map OrderItemsTableRow.id).Nodup :=
    ids.nodup_iff.mpr distinct
  rw [upsertAll_eq_append absent distinctRows] at items
  have ofOrder : ∀ row ∈ itemRows, row.orderId = order.props.orderReference := by
    intro row rowMem
    obtain ⟨line, _, isRow⟩ := exists_of_mem_rows rowsOf rowMem
    exact (id_of_itemRowOf isRow).2
  have others : tables.orderItems.filter
      (·.orderId = order.props.orderReference) = [] := by
    rw [List.filter_eq_nil_iff]
    intro item itemMem same
    apply unstored
    change order.props.orderReference ∈ _
    rw [← of_decide_eq_true same]
    exact keyed.onOrder item itemMem
  have own : itemRows.filter (·.orderId = order.props.orderReference) =
      itemRows := by
    rw [List.filter_eq_self]
    exact fun row rowMem => decide_eq_true (ofOrder row rowMem)
  refine ⟨sound.of_props rfl, rfl, ⟨?_, ?_⟩, ?_, ?_⟩
  · rw [items, List.map_append]
    apply List.Nodup.append keyed.items distinctRows
    intro id stored new
    obtain ⟨row, rowMem, rfl⟩ := List.mem_map.mp new
    exact absent row rowMem stored
  · intro item itemMem
    rw [items] at itemMem
    rw [orders, List.map_append]
    rcases List.mem_append.mp itemMem with old | new
    · exact List.mem_append_left _ (keyed.onOrder item old)
    · rw [ofOrder item new]
      exact List.mem_append_right _ List.mem_cons_self
  · refine ⟨toOrdersTableRow order ⟨companyId, retailerId, currencyId⟩ requestId,
      ?_, ?_⟩
    · rw [orders, List.find?_append, List.find?_eq_none.mpr]
      · simp [pulled, toOrdersTableRow]
      · intro other otherMem same
        exact unstored (List.mem_map.mpr ⟨other, otherMem, of_decide_eq_true same⟩)
    · exact ⟨rfl, retailer, company, currency, rfl, rfl, rfl, rfl, rfl, rfl⟩
  · rw [items]
    change ((List.filter (fun item : OrderItemsTableRow =>
      item.orderId = order.props.orderReference) _).map some).Perm _
    rw [List.filter_append, others, own, List.nil_append, rowsOf]
    change List.Perm _ ((order.props.lines ++ []).map _)
    rw [List.append_nil]
    exact List.Perm.refl _

/-- The lines of an order and those removed from it never share an identifier. -/
theorem Holds.distinct {refs : ReferenceTables} {placed order : Order}
    {removed : List OrderLine} {tables : OrderTables}
    (holds : Holds refs placed order removed tables) :
    ((order.props.lines ++ removed).map OrderLine.id).Nodup := by
  rw [← (ids_perm holds.items).nodup_iff]
  exact (List.filter_sublist.map _).nodup holds.keyed.items

/-- An operation that adds no line leaves lines with the identifiers of some. -/
theorem ids_linesAfter {operation : OrderOperation} (lines : List OrderLine)
    (notAdded : ∀ newId input, operation ≠ .addLine newId input) :
    ((linesAfter operation lines).map OrderLine.id).Sublist
      (lines.map OrderLine.id) := by
  cases operation with
  | addLine newId input => exact absurd rfl (notAdded newId input)
  | removeLine lineId => exact List.filter_sublist.map _
  | changeLineQuantity lineId quantity =>
      have same : (linesAfter (.changeLineQuantity lineId quantity) lines).map
          OrderLine.id = lines.map OrderLine.id := by
        rw [linesAfter, List.map_map]
        apply List.map_congr_left
        intro line _
        simp only [Function.comp_apply]
        split <;> rfl
      rw [same]
  | markStockReserved | approveCredit | confirm | markDespatched | markInvoiced
  | markPaid | complete | cancel | recordSagaFailure =>
      exact List.Sublist.refl _

/-- Lines that are written as they are leave the removed ones as they are. -/
theorem versions_unchanged {lines removed : List OrderLine}
    (apart : ∀ line ∈ removed, line.id ∉ lines.map OrderLine.id) :
    ∀ line ∈ lines ++ removed, LineVersion lines line line := by
  intro line lineMem
  refine ⟨rfl, rfl, ?_⟩
  rcases List.mem_append.mp lineMem with current | gone
  · exact Or.inl current
  · exact Or.inr ⟨rfl, apart line gone⟩

theorem apart_of_distinct {lines removed : List OrderLine}
    (distinct : ((lines ++ removed).map OrderLine.id).Nodup) :
    ∀ line ∈ removed, line.id ∉ lines.map OrderLine.id := by
  rw [List.map_append, List.nodup_append] at distinct
  exact fun line lineMem listed =>
    distinct.2.2 _ listed _ (List.mem_map_of_mem lineMem) rfl

/-- The version an operation makes of a stored line. -/
def versionOf : OrderOperation → OrderLine → OrderLine
  | .changeLineQuantity lineId quantity, line =>
      if line.id = lineId then line.withQuantity quantity else line
  | _, line => line

/-- An operation that adds no line writes the versions of the order's lines, and
the versions of all stored lines are its lines and the removed ones. -/
theorem versions_of_operation {operation : OrderOperation}
    {lines removed : List OrderLine}
    (distinct : ((lines ++ removed).map OrderLine.id).Nodup)
    (notAdded : ∀ newId input, operation ≠ .addLine newId input)
    (found : ∀ lineId quantity, operation = .changeLineQuantity lineId quantity →
      lineId ∈ lines.map OrderLine.id) :
    (∀ line ∈ lines ++ removed,
      LineVersion (linesAfter operation lines) line (versionOf operation line)) ∧
      ((lines ++ removed).map (versionOf operation)).Perm
        (linesAfter operation lines ++ (removed ++ removedBy operation lines)) := by
  have elsewhere := apart_of_distinct distinct
  have untouched : ∀ {operation}, linesAfter operation lines = lines →
      (∀ line, versionOf operation line = line) → removedBy operation lines = [] →
        (∀ line ∈ lines ++ removed, LineVersion (linesAfter operation lines) line
          (versionOf operation line)) ∧
          ((lines ++ removed).map (versionOf operation)).Perm
            (linesAfter operation lines ++
              (removed ++ removedBy operation lines)) := by
    intro operation sameLines itself none
    rw [sameLines, none, List.append_nil]
    constructor
    · intro line lineMem
      rw [itself]
      exact versions_unchanged elsewhere line lineMem
    · rw [List.map_congr_left (fun line _ => itself line), List.map_id']
  cases operation with
  | addLine newId input => exact absurd rfl (notAdded newId input)
  | removeLine lineId =>
      constructor
      · intro line lineMem
        refine ⟨rfl, rfl, ?_⟩
        by_cases gone : line.id = lineId
        · refine Or.inr ⟨rfl, fun listed => ?_⟩
          obtain ⟨other, otherMem, same⟩ := List.mem_map.mp listed
          have kept := (List.mem_filter.mp otherMem).2
          simp [same, gone] at kept
        · rcases List.mem_append.mp lineMem with current | removedBefore
          · exact Or.inl (List.mem_filter.mpr ⟨current, decide_eq_true gone⟩)
          · refine Or.inr ⟨rfl, fun listed => elsewhere line removedBefore ?_⟩
            obtain ⟨other, otherMem, same⟩ := List.mem_map.mp listed
            exact List.mem_map.mpr ⟨other, (List.mem_filter.mp otherMem).1, same⟩
      · change ((lines ++ removed).map id).Perm
          (lines.filter (fun line => ¬ line.id = lineId) ++
            (removed ++ lines.filter fun line => line.id = lineId))
        rw [List.map_id]
        have split := List.filter_append_perm
          (fun line : OrderLine => decide (line.id = lineId)) lines
        have moved := (split.symm.append_right removed).trans
          (List.Perm.of_eq (List.append_assoc _ _ _))
        have swapped := moved.trans List.perm_append_comm
        rw [List.append_assoc] at swapped
        simpa only [decide_not] using swapped
  | changeLineQuantity lineId quantity =>
      have listed := found lineId quantity rfl
      have version : ∀ line, versionOf (.changeLineQuantity lineId quantity) line =
          if line.id = lineId then line.withQuantity quantity else line :=
        fun _ => rfl
      have keepsId : ∀ line,
          (versionOf (.changeLineQuantity lineId quantity) line).id = line.id := by
        intro line
        rw [version]
        split <;> rfl
      have unchanged : ∀ line ∈ removed,
          versionOf (.changeLineQuantity lineId quantity) line = line := by
        intro line lineMem
        rw [version, if_neg]
        rintro rfl
        exact elsewhere line lineMem listed
      constructor
      · intro line lineMem
        refine ⟨keepsId line, ?_, ?_⟩
        · rw [version]
          split <;> rfl
        · rcases List.mem_append.mp lineMem with current | gone
          · exact Or.inl (List.mem_map_of_mem current)
          · refine Or.inr ⟨unchanged line gone, fun written => ?_⟩
            apply elsewhere line gone
            obtain ⟨later, laterMem, same⟩ := List.mem_map.mp written
            obtain ⟨before, beforeMem, rfl⟩ := List.mem_map.mp laterMem
            exact List.mem_map.mpr ⟨before, beforeMem, (keepsId before).symm.trans same⟩
      · have none : removedBy (.changeLineQuantity lineId quantity) lines = [] := rfl
        have current : lines.map (versionOf (.changeLineQuantity lineId quantity)) =
          linesAfter (.changeLineQuantity lineId quantity) lines := rfl
        rw [none, List.append_nil, List.map_append, current,
          List.map_congr_left unchanged, List.map_id']
  | markStockReserved | approveCredit | confirm | markDespatched | markInvoiced
  | markPaid | complete | cancel | recordSagaFailure =>
      exact untouched rfl (fun _ => rfl) rfl

/-- A quantity is changed of a line the order has. -/
theorem found_of_perform {order order' : Order} {operation : OrderOperation}
    (performed : order.perform operation = .ok order') :
    ∀ lineId quantity, operation = .changeLineQuantity lineId quantity →
      lineId ∈ order.props.lines.map OrderLine.id := by
  rintro lineId quantity rfl
  simp only [Order.perform, Order.changeLineQuantity, bind_eq_ok_iff,
    ite_error_eq_ok_iff] at performed
  obtain ⟨_, _, found, _⟩ := performed
  obtain ⟨line, isLine⟩ := Option.ne_none_iff_exists'.mp found
  have named := List.find?_some isLine
  exact List.mem_map.mpr
    ⟨line, List.mem_of_find?_eq_some isLine, of_decide_eq_true named⟩

/-- The items after the save of an operation: the rows of the lines it left and
of all that were removed. -/
theorem items_of_perform {refs : ReferenceTables} {reference : OrderNumber}
    {operation : OrderOperation} {lines removed : List OrderLine}
    {table rows : List OrderItemsTableRow}
    (items : ((table.filter (·.orderId = reference)).map some).Perm
      ((lines ++ removed).map (itemRowOf refs reference)))
    (keyed : (table.map OrderItemsTableRow.id).Nodup)
    (fresh : ∀ newId input, operation = .addLine newId input →
      newId ∉ table.map OrderItemsTableRow.id)
    (found : ∀ lineId quantity, operation = .changeLineQuantity lineId quantity →
      lineId ∈ lines.map OrderLine.id)
    (rowsOf : rows.map some =
      (linesAfter operation lines).map (itemRowOf refs reference)) :
    (((upsertAll OrderItemsTableRow.id mergeItemRow table rows).filter
        (·.orderId = reference)).map some).Perm
      ((linesAfter operation lines ++ (removed ++ removedBy operation lines)).map
        (itemRowOf refs reference)) := by
  have distinct : ((lines ++ removed).map OrderLine.id).Nodup := by
    rw [← (ids_perm items).nodup_iff]
    exact (List.filter_sublist.map _).nodup keyed
  by_cases added : ∃ newId input, operation = .addLine newId input
  · obtain ⟨newId, input, rfl⟩ := added
    have unused := fresh newId input rfl
    rw [linesAfter, List.map_append, List.map_singleton] at rowsOf
    obtain ⟨present, added, rfl, rowsOfLines, isNew⟩ :=
      List.map_eq_append_iff.mp rowsOf
    obtain ⟨row, rfl, isRow⟩ := List.map_eq_singleton_iff.mp isNew
    have ids := ids_perm (List.Perm.of_eq rowsOfLines)
    have stored : ∀ line ∈ lines, line.id ∈ (lines ++ removed).map OrderLine.id := by
      intro line lineMem
      exact List.mem_map_of_mem (List.mem_append_left removed lineMem)
    have distinctLines : (lines.map OrderLine.id).Nodup := by
      rw [List.map_append] at distinct
      exact (List.nodup_append.mp distinct).1
    obtain ⟨written, kept⟩ := items_of_versions items rowsOfLines
      (ids.nodup_iff.mpr distinctLines) stored
      (versions_unchanged (apart_of_distinct distinct))
    have absent : row.id ∉ (upsertAll OrderItemsTableRow.id mergeItemRow table
        present).map OrderItemsTableRow.id := by
      rw [(upsertAll_keys id_mergeItemRow keyed).2, (id_of_itemRowOf isRow.symm).1,
        ids.mem_iff]
      rintro (inTable | inLines)
      · exact unused inTable
      · obtain ⟨line, lineMem, same⟩ := List.mem_map.mp inLines
        have listed := (ids_perm items).mem_iff.mpr (stored line lineMem)
        rw [same] at listed
        obtain ⟨other, otherMem, isOther⟩ := List.mem_map.mp listed
        exact unused (List.mem_map.mpr
          ⟨other, (List.mem_filter.mp otherMem).1, isOther⟩)
    have appended := @upsertAll_eq_append _ _ _ OrderItemsTableRow.id mergeItemRow
      (upsertAll OrderItemsTableRow.id mergeItemRow table present) [row]
      (fun other otherMem => by
        rw [List.mem_singleton.mp otherMem]
        exact absent)
      (List.nodup_singleton _)
    have own : [row].filter (·.orderId = reference) = [row] := by
      rw [List.filter_eq_self]
      intro other otherMem
      rw [List.mem_singleton.mp otherMem]
      exact decide_eq_true (id_of_itemRowOf isRow.symm).2
    have none : removedBy (.addLine newId input) lines = [] := rfl
    rw [upsertAll_append, appended, written, List.filter_append, List.map_append,
      own, none, List.append_nil, linesAfter]
    rw [List.map_id'] at kept
    apply (kept.append_right _).trans
    simp only [List.map_append, List.append_assoc, List.map_singleton, ← isRow]
    exact List.perm_append_comm.append_left _
  · have notAdded : ∀ newId input, operation ≠ .addLine newId input :=
      fun newId input isAdd => added ⟨newId, input, isAdd⟩
    obtain ⟨versions, perm⟩ := versions_of_operation distinct notAdded found
    have distinctRows : (rows.map OrderItemsTableRow.id).Nodup := by
      rw [(ids_perm (List.Perm.of_eq rowsOf)).nodup_iff]
      rw [List.map_append] at distinct
      exact (ids_linesAfter lines notAdded).nodup (List.nodup_append.mp distinct).1
    obtain ⟨written, stored⟩ := items_of_versions items rowsOf distinctRows
      (fun line lineMem => by
        rw [List.map_append]
        exact List.mem_append_left _
          ((ids_linesAfter lines notAdded).subset (List.mem_map_of_mem lineMem)))
      versions
    rw [written]
    exact stored.trans (perm.map _)

/-- Every item of a table that was written is on an order of the table or of the
rows. -/
theorem orderId_of_mem_upsertAll {table rows : List OrderItemsTableRow}
    {item : OrderItemsTableRow}
    (itemMem : item ∈ upsertAll OrderItemsTableRow.id mergeItemRow table rows) :
    item.orderId ∈ table.map OrderItemsTableRow.orderId ∨
      item.orderId ∈ rows.map OrderItemsTableRow.orderId := by
  induction rows generalizing table with
  | nil => exact Or.inl (List.mem_map_of_mem itemMem)
  | cons row rest inductionHypothesis =>
      rcases inductionHypothesis itemMem with written | later
      · obtain ⟨other, otherMem, same⟩ := List.mem_map.mp written
        rw [← same]
        unfold upsert at otherMem
        split at otherMem
        · obtain ⟨existing, existingMem, rfl⟩ := List.mem_map.mp otherMem
          have kept := orderId_updateRows [row] existing
          simp only [updateRows] at kept
          rw [kept]
          exact Or.inl (List.mem_map_of_mem existingMem)
        · rcases List.mem_append.mp otherMem with old | new
          · exact Or.inl (List.mem_map_of_mem old)
          · rw [List.mem_singleton.mp new]
            exact Or.inr List.mem_cons_self
      · exact Or.inr (List.mem_cons_of_mem _ later)

/-- Every later save keeps what is stored of the order in step with it. -/
theorem Holds.updated {columns : ColumnTypes} {refs : ReferenceTables}
    {placed order order' : Order} {removed : List OrderLine}
    {tables tables' : OrderTables} {operation : OrderOperation}
    (holds : Holds refs placed order removed tables)
    (fresh : ∀ newId input, operation = .addLine newId input →
      newId ∉ tables.orderItems.map OrderItemsTableRow.id)
    (performed : order.perform operation = .ok order')
    (saved : tables.save columns refs order' none = .ok tables') :
    Holds refs placed (pulled order')
      (removed ++ removedBy operation order.props.lines) tables' := by
  have change := Order.change_of_perform performed
  have header := sameHeader_of_change change
  obtain ⟨lines, events⟩ := lines_of_perform performed
  obtain ⟨currencyId, retailerId, companyId, itemRows, currency, retailer, company,
    written, rowsOf, items⟩ := save_eq_ok saved
  have known : order'.domainEvents.any (·.eventType = .orderPlaced) = false := by
    rw [List.any_eq_false]
    intro fact factMem isPlaced
    rcases events fact factMem with old | other
    · rw [holds.drained] at old
      cases old
    · exact other (of_decide_eq_true isPlaced)
  rw [writeOrder, known] at written
  have orders := updateOrder_eq_ok written
  rw [lines, header.orderReference] at rowsOf
  obtain ⟨row, found, isRow⟩ := holds.row
  have stored := items_of_perform holds.items holds.keyed.items fresh
    (found_of_perform performed) rowsOf
  refine ⟨(holds.sound.change change).of_props rfl, rfl, ⟨?_, ?_⟩, ?_, ?_⟩
  · rw [items]
    exact (upsertAll_keys id_mergeItemRow holds.keyed.items).1
  · have sameIds : tables'.orders.map OrdersTableRow.id =
        tables.orders.map OrdersTableRow.id := by
      rw [orders]
      exact @map_key_map_updateRow _ _ _ OrdersTableRow.id updateOrdersRow
        (fun _ _ _ => rfl) _ _
    intro item itemMem
    rw [items] at itemMem
    rw [sameIds]
    rcases orderId_of_mem_upsertAll itemMem with old | new
    · obtain ⟨existing, existingMem, same⟩ := List.mem_map.mp old
      rw [← same]
      exact holds.keyed.onOrder existing existingMem
    · obtain ⟨written, writtenMem, same⟩ := List.mem_map.mp new
      obtain ⟨line, _, isWritten⟩ := exists_of_mem_rows rowsOf writtenMem
      rw [← same, (id_of_itemRowOf isWritten).2, ← isRow.id]
      exact List.mem_map_of_mem (List.mem_of_find?_eq_some found)
  · have sameKey : (toOrdersTableRow order' ⟨companyId, retailerId, currencyId⟩
        none).id = order.props.orderReference := header.orderReference
    refine ⟨updateOrdersRow row
      (toOrdersTableRow order' ⟨companyId, retailerId, currencyId⟩ none), ?_, ?_⟩
    · rw [orders]
      change List.find? (fun other : OrdersTableRow =>
        other.id = order'.props.orderReference) _ = _
      exact find?_map_updateRow (by rw [sameKey]; exact found)
    · exact
        { id := isRow.id.trans header.orderReference.symm
          retailer := (congrArg _ header.retailerCode).trans isRow.retailer
          company := (congrArg _ header.companyCode).trans isRow.company
          currency := (congrArg _ header.currency).trans isRow.currency
          status := rfl
          cancellationReason := rfl
          notes := rfl
          initialAmount := isRow.initialAmount
          initialDiscount := isRow.initialDiscount
          totalAmount := isRow.totalAmount }
  · rw [items]
    simp only [pulled, lines, header.orderReference]
    exact stored

/-! ## Runs of saves -/

/-- An order that was inserted when it was placed and updated after each of some
operations.  The identifiers of lines are generated: no row has one that is
new. -/
inductive Saved (columns : ColumnTypes) (refs : ReferenceTables)
    (placed : Order) : List OrderOperation → Order → OrderTables → Prop
  | inserted {tables tables' : OrderTables} {requestId : Option String}
      (sound : placed.Sound) (keyed : tables.Keyed)
      (isNew : placed.domainEvents.any (·.eventType = .orderPlaced))
      (distinct : (placed.props.lines.map OrderLine.id).Nodup)
      (fresh : ∀ line ∈ placed.props.lines,
        line.id ∉ tables.orderItems.map OrderItemsTableRow.id)
      (saved : tables.save columns refs placed requestId = .ok tables') :
      Saved columns refs placed [] (pulled placed) tables'
  | updated {operations : List OrderOperation} {order order' : Order}
      {tables tables' : OrderTables} {operation : OrderOperation}
      (earlier : Saved columns refs placed operations order tables)
      (fresh : ∀ newId input, operation = .addLine newId input →
        newId ∉ tables.orderItems.map OrderItemsTableRow.id)
      (performed : order.perform operation = .ok order')
      (saved : tables.save columns refs order' none = .ok tables') :
      Saved columns refs placed (operations ++ [operation]) (pulled order') tables'

/-- An accepted removal takes a line away. -/
theorem removedBy_ne_nil {order order' : Order} {lineId : UniqueId}
    (performed : order.perform (.removeLine lineId) = .ok order') :
    removedBy (.removeLine lineId) order.props.lines ≠ [] := by
  simp only [Order.perform, Order.removeLine, bind_eq_ok_iff, ite_error_eq_ok_iff]
    at performed
  obtain ⟨_, _, present, _⟩ := performed
  rw [Bool.not_eq_false, List.any_eq_true] at present
  obtain ⟨line, lineMem, same⟩ := present
  exact List.ne_nil_of_mem (List.mem_filter.mpr ⟨lineMem, same⟩)

theorem removedBy_eq_nil {operation : OrderOperation} (lines : List OrderLine)
    (notRemoval : ∀ lineId, operation ≠ .removeLine lineId) :
    removedBy operation lines = [] := by
  cases operation with
  | removeLine lineId => exact absurd rfl (notRemoval lineId)
  | addLine | changeLineQuantity | markStockReserved | approveCredit | confirm
  | markDespatched | markInvoiced | markPaid | complete | cancel
  | recordSagaFailure => rfl

/-- What is stored after a run: removed lines are left exactly by removals. -/
theorem holds_of_saved {columns : ColumnTypes} {refs : ReferenceTables}
    {placed order : Order} {operations : List OrderOperation} {tables : OrderTables}
    (saved : Saved columns refs placed operations order tables) :
    ∃ removed, Holds refs placed order removed tables ∧
      (removed = [] ↔ ∀ lineId, .removeLine lineId ∉ operations) := by
  induction saved with
  | inserted sound keyed isNew distinct fresh saved =>
      refine ⟨[], holds_inserted sound keyed isNew distinct fresh saved, ?_⟩
      simp
  | @updated operations order order' tables tables' operation _ fresh performed saved
      inductionHypothesis =>
      obtain ⟨removed, holds, removals⟩ := inductionHypothesis
      refine ⟨_, holds.updated fresh performed saved, ?_⟩
      rw [List.append_eq_nil_iff, removals]
      constructor
      · rintro ⟨before, now⟩ lineId listed
        rcases List.mem_append.mp listed with earlier | last
        · exact before lineId earlier
        · rw [← List.mem_singleton.mp last] at performed now
          exact removedBy_ne_nil performed now
      · intro none
        refine ⟨fun lineId listed => none lineId (List.mem_append_left _ listed), ?_⟩
        apply removedBy_eq_nil
        rintro lineId rfl
        exact none lineId (List.mem_append_right _ List.mem_cons_self)

/-! ## Loading -/

/-- What a load reads of the lines: every stored line of the order, joined. -/
theorem Holds.joinedItems_perm {refs : ReferenceTables} {placed order : Order}
    {removed : List OrderLine} {tables : OrderTables}
    (holds : Holds refs placed order removed tables) :
    (tables.joinedItems refs order.props.orderReference).Perm
      ((order.props.lines ++ removed).map joinedRowOf) := by
  have joined : tables.joinedItems refs order.props.orderReference =
      ((tables.orderItems.filter
        (·.orderId = order.props.orderReference)).map some).filterMap
          fun stored => stored.bind fun item =>
            (refs.products.codeOf item.productId).map fun productCode =>
              { id := item.id
                productCode := productCode
                description := item.description
                price := item.price
                quantity := item.quantity
                discount := item.discount } := by
    rw [List.filterMap_map]
    rfl
  rw [joined]
  apply (holds.items.filterMap _).trans
  rw [List.filterMap_map, ← List.filterMap_eq_map]
  refine List.Perm.of_eq (List.filterMap_congr fun line lineMem => ?_)
  have isSome := isSome_itemRowOf holds.items line lineMem
  obtain ⟨row, isRow, _⟩ := Option.map_eq_some_iff.mp isSome
  obtain ⟨productId, resolved, rfl⟩ := Option.map_eq_some_iff.mp isRow
  simp only [Function.comp_apply, isRow, Option.bind_some, toOrderItemsTableRow,
    ReferenceTable.codeOf_of_idOfSpelled resolved, Option.map_some]
  rfl

/-- The codes a row comes back with. -/
structure StoredCodes where
  retailerCode : String
  companyCode : String
  currencyCode : String

/-- The reference tables spell the codes of an order so. -/
structure Spells (refs : ReferenceTables) (order : Order) (codes : StoredCodes) :
    Prop where
  retailer : refs.retailers.spelling order.props.retailerCode =
    some codes.retailerCode
  company : refs.companies.spelling order.props.companyCode = some codes.companyCode
  currency : refs.currencies.spelling order.props.currency = some codes.currencyCode

/-- The snapshot a load rebuilds the order from, with the lines it has read. -/
def snapshotOf (order : Order) (codes : StoredCodes) (lines : List OrderLine) :
    OrderProps :=
  { order.props with
    retailerCode := codes.retailerCode
    companyCode := codes.companyCode
    currency := codes.currencyCode
    lines := lines
    initialAmount := noTotal
    initialDiscount := noTotal
    totalAmount := noTotal }

/-- A load of a stored order rebuilds it from the lines of its items and from its
codes as the tables spell them. -/
theorem Holds.findById_eq_ok_iff {refs : ReferenceTables} {placed order : Order}
    {removed : List OrderLine} {tables : OrderTables}
    (holds : Holds refs placed order removed tables) :
    ∃ codes, Spells refs order codes ∧ ∀ items loaded,
      tables.findById refs order.props.orderReference items = .ok (some loaded) ↔
        ∃ lines, items.mapM (toOrderLineSnapshot codes.currencyCode) = .ok lines ∧
          Order.reconstitute (snapshotOf order codes lines) = .ok loaded := by
  obtain ⟨row, found, isRow⟩ := holds.row
  obtain ⟨retailerCode, retailer, ofRetailer⟩ :=
    ReferenceTable.codeOf_of_idOf isRow.retailer
  obtain ⟨companyCode, company, ofCompany⟩ :=
    ReferenceTable.codeOf_of_idOf isRow.company
  obtain ⟨currencyCode, currency, ofCurrency⟩ :=
    ReferenceTable.codeOf_of_idOf isRow.currency
  have joined : tables.joinedOrder refs order.props.orderReference =
      some
        { id := order.props.orderReference
          retailerCode := retailerCode
          companyCode := companyCode
          currencyCode := currencyCode
          status := order.props.status
          cancellationReason := order.props.cancellationReason
          notes := order.props.notes } := by
    simp only [joinedOrder, found, Option.bind_eq_bind, Option.bind_some, ofRetailer,
      ofCompany, ofCurrency, isRow.id, isRow.status, isRow.cancellationReason,
      isRow.notes]
    rfl
  refine ⟨⟨retailerCode, companyCode, currencyCode⟩, ⟨retailer, company, currency⟩,
    fun items loaded => ?_⟩
  simp only [findById, joined, bind_eq_ok_iff, mapError_eq_ok_iff, Except.ok.injEq,
    Option.some.injEq, toOrderSnapshot]
  constructor
  · rintro ⟨_, ⟨lines, read, rfl⟩, _, rebuilt, rfl⟩
    exact ⟨lines, read, rebuilt⟩
  · rintro ⟨lines, read, rebuilt⟩
    exact ⟨_, ⟨lines, read, rfl⟩, _, rebuilt, rfl⟩

/-- Saving and loading gives the order back: whatever order its items are read
in, a load yields the same lines and the same of everything else, the parties by
their codes as the reference tables spell them, and the totals columns are the
order's totals. -/
structure RoundTrips (refs : ReferenceTables) (tables : OrderTables)
    (order : Order) : Prop where
  loads : ∀ items,
    items.Perm (tables.joinedItems refs order.props.orderReference) →
      ∃ loaded,
        tables.findById refs order.props.orderReference items =
          .ok (some loaded) ∧
        loaded.props.lines.Perm order.props.lines ∧
        { loaded.props with
          lines := order.props.lines
          retailerCode := order.props.retailerCode
          companyCode := order.props.companyCode } = order.props ∧
        refs.retailers.spelling order.props.retailerCode =
          some loaded.props.retailerCode ∧
        refs.companies.spelling order.props.companyCode =
          some loaded.props.companyCode
  columns : ∃ row,
    tables.orders.find? (·.id = order.props.orderReference) = some row ∧
      row.initialAmount = order.props.initialAmount.amount ∧
      row.initialDiscount = order.props.initialDiscount.amount ∧
      row.totalAmount = order.props.totalAmount.amount

/-- A loaded order can be rebuilt from itself. -/
theorem reconstitute_of_findById {refs : ReferenceTables} {tables : OrderTables}
    {order : OrderNumber} {items : List OrderItemRowWithCode} {loaded : Order}
    (found : tables.findById refs order items = .ok (some loaded)) :
    Order.reconstitute loaded.props = .ok ⟨loaded.props, []⟩ := by
  unfold findById at found
  split at found
  · cases found
  · simp only [bind_eq_ok_iff, Except.ok.injEq, Option.some.injEq] at found
    obtain ⟨snapshot, _, _, rebuilt, rfl⟩ := found
    obtain ⟨some, cancelled, live, totals, computed, rfl⟩ :=
      Order.reconstitute_eq_ok_iff.mp rebuilt
    exact Order.reconstitute_eq_ok_iff.mpr ⟨some, cancelled, live, totals, computed, rfl⟩

/-- What a load gives back of an order that round-trips is a stored form of it. -/
theorem RoundTrips.storedForm {refs : ReferenceTables} {tables : OrderTables}
    {order : Order} (roundTrips : RoundTrips refs tables order)
    {items : List OrderItemRowWithCode}
    (perm : items.Perm (tables.joinedItems refs order.props.orderReference)) :
    ∃ (loaded : Order) (form : StoredForm),
      tables.findById refs order.props.orderReference items = .ok (some loaded) ∧
        form.Fits order.props ∧ loaded.props = form.row order.props := by
  obtain ⟨loaded, found, lines, same, _⟩ := roundTrips.loads items perm
  have isRow := congrArg
    (StoredForm.row ⟨loaded.props.retailerCode, loaded.props.companyCode,
      loaded.props.lines⟩) same
  refine ⟨loaded, _, found, ⟨lines, ?_⟩, isRow⟩
  rw [← isRow]
  exact congrArg Except.isOk (reconstitute_of_findById found)

/-- An order that round-trips has as many lines as rows, and its currency is spelled
as in its table. -/
theorem Holds.lines_of_roundTrips {refs : ReferenceTables} {placed order : Order}
    {removed : List OrderLine} {tables : OrderTables}
    (holds : Holds refs placed order removed tables)
    (roundTrips : RoundTrips refs tables order) :
    (tables.joinedItems refs order.props.orderReference).length =
        order.props.lines.length ∧
      refs.currencies.spelling order.props.currency = some order.props.currency := by
  obtain ⟨codes, spells, loads⟩ := holds.findById_eq_ok_iff
  obtain ⟨loaded, isLoaded, sameLines, same, _⟩ :=
    roundTrips.loads _ (List.Perm.refl _)
  obtain ⟨lines, read, rebuilt⟩ := (loads _ _).mp isLoaded
  obtain ⟨_, _, _, totals, computed, rfl⟩ := Order.reconstitute_eq_ok_iff.mp rebuilt
  have validated : validateCurrency codes.currencyCode = .ok totals.totalAmount.currency :=
    (computeOrderTotals_eq_ok computed).1
  constructor
  · have mapped := Except.ok.inj
      ((mapM_toOrderLineSnapshot validated _).symm.trans read)
    have count : (snapshotOf order codes lines).lines.length =
      order.props.lines.length := sameLines.length_eq
    rw [← count]
    exact (List.length_map _).symm.trans (congrArg List.length mapped)
  · rw [spells.currency]
    exact congrArg (fun props => some (OrderProps.currency props)) same

/-- The two orders have the same totals. -/
structure SameTotals (placed order : Order) : Prop where
  initialAmount : order.props.initialAmount.amount =
    placed.props.initialAmount.amount
  initialDiscount : order.props.initialDiscount.amount =
    placed.props.initialDiscount.amount
  totalAmount : order.props.totalAmount.amount = placed.props.totalAmount.amount

/-- The lines of a sound order are in one code, the upper case of its currency. -/
theorem exists_code_of_sound {order : Order} (sound : order.Sound) :
    ∃ code, validateCurrency order.props.currency = .ok code ∧
      ∀ line ∈ order.props.lines,
        line.unitPrice.currency = code ∧ line.lineDiscount.currency = code := by
  obtain ⟨first, firstMem⟩ := List.exists_mem_of_ne_nil _ sound.lines
  refine ⟨first.unitPrice.currency, (sound.currency first firstMem).1,
    fun line lineMem => ?_⟩
  have ofLine := sound.currency line lineMem
  rw [(sound.currency first firstMem).1] at ofLine
  exact ⟨(Except.ok.inj ofLine.1).symm, (Except.ok.inj ofLine.2).symm⟩

/-- Lines in one code are read back from their joined rows. -/
theorem map_lineIn_joinedRowOf {code : CurrencyCode} {lines : List OrderLine}
    (inCode : ∀ line ∈ lines,
      line.unitPrice.currency = code ∧ line.lineDiscount.currency = code) :
    (lines.map joinedRowOf).map (lineIn code) = lines := by
  rw [List.map_map]
  conv => rhs; rw [← List.map_id lines]
  apply List.map_congr_left
  intro line lineMem
  exact lineIn_joinedRowOf (inCode line lineMem).1 (inCode line lineMem).2

/-- A snapshot in the order's currency, with its lines, safely summed, is the
order. -/
theorem reconstitute_snapshotOf {order : Order} (sound : order.Sound)
    {codes : StoredCodes} (currency : codes.currencyCode = order.props.currency)
    {lines : List OrderLine} (perm : lines.Perm order.props.lines)
    (summed : SafelySummed lines) :
    Order.reconstitute (snapshotOf order codes lines) =
      .ok ⟨{ order.props with
          retailerCode := codes.retailerCode
          companyCode := codes.companyCode
          lines := lines }, []⟩ := by
  rw [Order.reconstitute_eq_ok_iff]
  refine ⟨fun none => ?_, ?_, ?_, ⟨order.props.initialAmount,
    order.props.initialDiscount, order.props.totalAmount⟩, ?_, ?_⟩
  · change lines = [] at none
    rw [none] at perm
    exact sound.lines perm.nil_eq.symm
  · rintro ⟨cancelled, absent⟩
    have reason := sound.reason.mpr cancelled
    rw [show order.props.cancellationReason = none from absent] at reason
    cases reason
  · rintro ⟨elsewhere, present⟩
    exact elsewhere (sound.reason.mp (Option.isSome_iff_ne_none.mpr present))
  · change computeOrderTotals _ codes.currencyCode _ = _
    rw [currency]
    exact (computeOrderTotals_perm perm sound.totals _).mpr ⟨summed, rfl⟩
  · simp only [snapshotOf, currency]

/-- A saved order round-trips exactly when no line has been removed from it since
it was inserted, its totals are those it was inserted with, the currencies table
spells its currency as it does, and in whatever order its lines are added their
sums stay safe integers. -/
theorem saved_roundTrips_iff {columns : ColumnTypes} {refs : ReferenceTables}
    {placed order : Order} {operations : List OrderOperation} {tables : OrderTables}
    (saved : Saved columns refs placed operations order tables) :
    RoundTrips refs tables order ↔
      (∀ lineId, .removeLine lineId ∉ operations) ∧ SameTotals placed order ∧
        refs.currencies.spelling order.props.currency = some order.props.currency ∧
        ∀ lines, lines.Perm order.props.lines → SafelySummed lines := by
  obtain ⟨removed, holds, removals⟩ := holds_of_saved saved
  obtain ⟨row, found, isRow⟩ := holds.row
  have stored := holds.joinedItems_perm
  obtain ⟨codes, spells, loadsIff⟩ := holds.findById_eq_ok_iff
  obtain ⟨code, validated, inCode⟩ := exists_code_of_sound holds.sound
  rw [← removals]
  constructor
  · intro roundTrips
    obtain ⟨count, spelled⟩ := holds.lines_of_roundTrips roundTrips
    obtain ⟨loads, row', found', initialAmount, initialDiscount, totalAmount⟩ :=
      roundTrips
    have sameRow : row' = row := Option.some.inj (found'.symm.trans found)
    subst sameRow
    have none : removed = [] := by
      rw [stored.length_eq, List.length_map, List.length_append] at count
      exact List.length_eq_zero_iff.mp (by omega)
    refine ⟨none, ⟨initialAmount.symm.trans isRow.initialAmount,
      initialDiscount.symm.trans isRow.initialDiscount,
      totalAmount.symm.trans isRow.totalAmount⟩, spelled, fun lines perm => ?_⟩
    have currency : codes.currencyCode = order.props.currency :=
      Option.some.inj (spells.currency.symm.trans spelled)
    rw [none, List.append_nil] at stored
    obtain ⟨loaded, isLoaded, _⟩ := loads (lines.map joinedRowOf)
      ((perm.map joinedRowOf).trans stored.symm)
    obtain ⟨readLines, read, rebuilt⟩ := (loadsIff _ _).mp isLoaded
    rw [currency, mapM_toOrderLineSnapshot validated, map_lineIn_joinedRowOf
      fun line lineMem => inCode line (perm.mem_iff.mp lineMem)] at read
    cases read
    obtain ⟨_, _, _, totals, computed, _⟩ := Order.reconstitute_eq_ok_iff.mp rebuilt
    change computeOrderTotals _ codes.currencyCode lines = _ at computed
    rw [currency] at computed
    exact ((computeOrderTotals_perm perm holds.sound.totals totals).mp computed).1
  · rintro ⟨rfl, totals, spelled, summed⟩
    have currency : codes.currencyCode = order.props.currency :=
      Option.some.inj (spells.currency.symm.trans spelled)
    rw [List.append_nil] at stored
    refine ⟨fun items perm => ?_, row, found, ?_, ?_, ?_⟩
    · have lines : (items.map (lineIn code)).Perm order.props.lines := by
        have read := (perm.trans stored).map (lineIn code)
        rwa [map_lineIn_joinedRowOf inCode] at read
      have rebuilt := reconstitute_snapshotOf holds.sound currency lines
        (summed _ lines)
      refine ⟨_, (loadsIff _ _).mpr ⟨_, ?_, rebuilt⟩, lines, rfl, spells.retailer,
        spells.company⟩
      rw [currency]
      exact mapM_toOrderLineSnapshot validated items
    · exact isRow.initialAmount.trans totals.initialAmount.symm
    · exact isRow.initialDiscount.trans totals.initialDiscount.symm
    · exact isRow.totalAmount.trans totals.totalAmount.symm

/-- Where no line adds or takes a negative amount, the last condition holds of
every sound order. -/
theorem safelySummed_of_sound {order : Order} (sound : order.Sound)
    (nonneg : ∀ line ∈ order.props.lines,
      0 ≤ line.unitPrice.amount ∧ 0 ≤ line.lineDiscount.amount) :
    ∀ lines, lines.Perm order.props.lines → SafelySummed lines := by
  have summed := ((computeOrderTotals_perm (List.Perm.refl _) sound.totals _).mp
    sound.totals).1
  exact fun lines perm => safelySummed_of_nonneg perm summed nonneg

/-! ## An order that loses a line -/

/-- One currency, one party on each side and two products. -/
def someReferences : ReferenceTables where
  currencies := ⟨[⟨⟨0⟩, "EUR"⟩], id, by decide, by decide⟩
  retailers := ⟨[⟨⟨0⟩, "RET-01"⟩], id, by decide, by decide⟩
  companies := ⟨[⟨⟨0⟩, "COM-01"⟩], id, by decide, by decide⟩
  products := ⟨[⟨⟨0⟩, "SKU-1"⟩, ⟨⟨1⟩, "SKU-2"⟩], id, by decide, by decide⟩

def anyColumns : ColumnTypes where
  order _ := true
  item _ := true

/-- Two lines, of 10.00 and of 3.00. -/
def twoLines : PlaceOrderInput where
  orderReference := ⟨1⟩
  retailerCode := "RET-01"
  companyCode := "COM-01"
  currency := "EUR"
  lines :=
    [{ productCode := "SKU-1"
       description := "one"
       quantity := 2
       unitPrice := ⟨500, .eur⟩
       lineDiscount := ⟨0, .eur⟩ },
     { productCode := "SKU-2"
       description := "two"
       quantity := 1
       unitPrice := ⟨300, .eur⟩
       lineDiscount := ⟨0, .eur⟩ }]
  notes := none

/-- The order is placed and saved, loses its second line and is saved again: one
line is left to it, and two are stored. -/
theorem twoLines_saved :
    ∃ placed order tables,
      Saved anyColumns someReferences placed [.removeLine ⟨1⟩] order tables ∧
        order.props.lines.length = 1 ∧
        (tables.joinedItems someReferences order.props.orderReference).length =
          2 := by
  have accepted : ∃ placed,
      Order.place (fun index => ⟨index⟩) twoLines = .ok placed := ⟨_, rfl⟩
  obtain ⟨placed, isPlaced⟩ := accepted
  have sound := Order.sound_of_place isPlaced
  cases isPlaced
  have inserted := @Saved.inserted anyColumns someReferences _ ⟨[], [], []⟩ _ none
    sound ⟨List.nodup_nil, by simp⟩ (by decide) (by decide)
    (by simp) rfl
  have updated := @Saved.updated _ _ _ _ _ _ _ _ (.removeLine ⟨1⟩) inserted
    (fun _ _ absurdity => by cases absurdity) rfl rfl
  exact ⟨_, _, _, updated, by decide, by decide⟩

/-- The order that comes back has its removed line. -/
theorem twoLines_not_roundTrips :
    ∃ placed order tables,
      Saved anyColumns someReferences placed [.removeLine ⟨1⟩] order tables ∧
        ¬ RoundTrips someReferences tables order := by
  obtain ⟨placed, order, tables, saved, remaining, stored⟩ := twoLines_saved
  refine ⟨placed, order, tables, saved, fun roundTrips => ?_⟩
  obtain ⟨removed, holds, _⟩ := holds_of_saved saved
  have count := (holds.lines_of_roundTrips roundTrips).1
  omega

/-- What the run above says of the order it ends with. -/
theorem twoLines_saved_iff :
    ∃ placed order tables,
      Saved anyColumns someReferences placed [.removeLine ⟨1⟩] order tables ∧
        (RoundTrips someReferences tables order ↔
          (∀ lineId, .removeLine lineId ∉ [OrderOperation.removeLine ⟨1⟩]) ∧
            SameTotals placed order ∧
            someReferences.currencies.spelling order.props.currency =
              some order.props.currency ∧
            ∀ lines, lines.Perm order.props.lines → SafelySummed lines) := by
  obtain ⟨placed, order, tables, saved, _⟩ := twoLines_saved
  exact ⟨placed, order, tables, saved, saved_roundTrips_iff saved⟩

end OrderTables

end OrderToCash.Orders
