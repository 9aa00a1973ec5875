import OrderToCash.Fulfillment.StockEffects
import Mathlib.Algebra.BigOperators.Group.List.Basic

/-!
# Reserving is all or nothing

The check of an order compares what its lines request together with what is
available, product by product; reserving the lines one after the other compares
each with what the ones before it left.  What the check accepted, the lines
never refuse.
-/

namespace OrderToCash.Fulfillment

open OrderToCash.Checked
open OrderToCash.Contracts
open OrderToCash.Kernel

/-! ## What lines request together -/

theorem requestedTotal_cons (line : StockReserveLine) (rest : List StockReserveLine)
    (productCode : String) :
    requestedTotal (line :: rest) productCode =
      (if line.productCode = productCode then (line.units.value : Int) else 0) +
        requestedTotal rest productCode := by
  by_cases here : line.productCode = productCode
  · simp [requestedTotal, here]
  · simp [requestedTotal, here]

theorem requestedTotal_nonneg (lines : List StockReserveLine)
    (productCode : String) : 0 ≤ requestedTotal lines productCode := by
  induction lines with
  | nil => exact Int.le_refl 0
  | cons line rest inductionHypothesis =>
      rw [requestedTotal_cons]
      split <;> omega

/-- No line requests more than the lines of its product together. -/
theorem units_le_requestedTotal {lines : List StockReserveLine}
    {line : StockReserveLine} (lineMem : line ∈ lines) :
    (line.units.value : Int) ≤ requestedTotal lines line.productCode := by
  induction lines with
  | nil => cases lineMem
  | cons first rest inductionHypothesis =>
      rw [requestedTotal_cons]
      rcases List.mem_cons.mp lineMem with rfl | inRest
      · have others := requestedTotal_nonneg rest line.productCode
        rw [if_pos rfl]
        omega
      · have within := inductionHypothesis inRest
        split <;> omega

section Fresh

variable {order : OrderNumber} {retailerCode : String} {newId : Nat → UniqueId}

/-- The lines of a product put one reservation each on its item. -/
theorem map_units_freshFor (index : Nat) (lines : List StockReserveLine)
    (item : StockItem) :
    (freshFor order retailerCode newId index lines item).map Reservation.units =
      (lines.filter (·.productCode = item.productCode)).map
        StockReserveLine.units := by
  induction lines generalizing index with
  | nil => rfl
  | cons line rest inductionHypothesis =>
      by_cases here : item.productCode = line.productCode
      · rw [freshFor, if_pos here, List.map_cons, inductionHypothesis]
        simp [here]
      · rw [freshFor, if_neg here, inductionHypothesis]
        simp [Ne.symm here]

/-- The units the lines of a product request, as their fresh reservations have
them. -/
theorem unitsOf_freshFor (index : Nat) (lines : List StockReserveLine)
    (item : StockItem) :
    unitsOf (freshFor order retailerCode newId index lines item) =
      requestedTotal lines item.productCode := by
  have units : (freshFor order retailerCode newId index lines item).map
      (fun reservation => (reservation.units.value : Int)) =
        ((freshFor order retailerCode newId index lines item).map
          Reservation.units).map fun units => (units.value : Int) := by
    rw [List.map_map]
    rfl
  unfold unitsOf requestedTotal
  rw [units, map_units_freshFor, List.map_map]
  rfl

end Fresh

/-! ## The check -/

theorem itemOf_isSome_iff {items : List StockItem} {productCode : String} :
    (∃ item, itemOf items productCode = some item) ↔
      productCode ∈ items.map StockItem.productCode := by
  constructor
  · rintro ⟨item, found⟩
    rcases itemOf_eq_some found with ⟨itemMem, rfl⟩
    exact List.mem_map_of_mem itemMem
  · intro known
    rcases List.mem_map.mp known with ⟨item, itemMem, same⟩
    cases found : itemOf items productCode with
    | some other => exact ⟨other, rfl⟩
    | none =>
        have absent := List.find?_eq_none.mp found item itemMem
        exact absurd (decide_eq_true same) absent

theorem itemOf_eq_none_iff {items : List StockItem} {productCode : String} :
    itemOf items productCode = none ↔
      productCode ∉ items.map StockItem.productCode := by
  rw [← itemOf_isSome_iff, not_exists]
  exact Option.eq_none_iff_forall_not_mem

/-- A line is served by the items: its product is known and has enough for all
its lines. -/
def IsServed (items : List StockItem) (lines : List StockReserveLine)
    (line : StockReserveLine) : Prop :=
  ∃ item ∈ items, item.productCode = line.productCode ∧
    requestedTotal lines line.productCode ≤ item.availableUnits

theorem shortageOf_eq_none_iff {items : List StockItem}
    {lines : List StockReserveLine} {line : StockReserveLine}
    (distinct : (items.map StockItem.productCode).Nodup) :
    shortageOf items lines line = none ↔ IsServed items lines line := by
  unfold shortageOf
  cases found : itemOf items line.productCode with
  | none =>
      have unknown := itemOf_eq_none_iff.mp found
      simp only [reduceCtorEq, false_iff]
      rintro ⟨item, itemMem, same, _⟩
      exact unknown (List.mem_map.mpr ⟨item, itemMem, same⟩)
  | some item =>
      rcases itemOf_eq_some found with ⟨itemMem, same⟩
      by_cases short : requestedTotal lines line.productCode > item.availableUnits
      · simp only [if_pos short, reduceCtorEq, false_iff]
        rintro ⟨other, otherMem, otherSame, fits⟩
        have sameItem : other = item :=
          List.inj_on_of_nodup_map distinct otherMem itemMem
            (otherSame.trans same.symm)
        rw [sameItem] at fits
        exact absurd short (Int.not_lt.mpr fits)
      · simp only [if_neg short, true_iff]
        exact ⟨item, itemMem, same, Int.not_lt.mp short⟩

theorem shortagesOf_eq_nil_iff {items : List StockItem}
    {lines : List StockReserveLine}
    (distinct : (items.map StockItem.productCode).Nodup) :
    shortagesOf items lines = [] ↔ ∀ line ∈ lines, IsServed items lines line := by
  unfold shortagesOf
  rw [List.filterMap_eq_nil_iff]
  exact forall₂_congr fun _ _ => shortageOf_eq_none_iff distinct

/-- Lines without shortages request no more of a loaded product than is
available. -/
theorem requestedTotal_le_of_shortagesOf_eq_nil {items : List StockItem}
    {lines : List StockReserveLine} {item : StockItem}
    (distinct : (items.map StockItem.productCode).Nodup) (itemMem : item ∈ items)
    (served : shortagesOf items lines = [])
    (requested : item.productCode ∈ lines.map StockReserveLine.productCode) :
    requestedTotal lines item.productCode ≤ item.availableUnits := by
  obtain ⟨line, lineMem, sameProduct⟩ := List.mem_map.mp requested
  obtain ⟨other, otherMem, same, fits⟩ :=
    (shortagesOf_eq_nil_iff distinct).mp served line lineMem
  have sameItem : other = item :=
    List.inj_on_of_nodup_map distinct otherMem itemMem (same.trans sameProduct)
  rw [← sameProduct, ← sameItem]
  exact fits

/-! ## The lines -/

/-- Lines whose products are known and have enough for what is left of them are
all reserved, by induction on the lines. -/
theorem reserveLines_isOk {order : OrderNumber} {retailerCode : String}
    {newId : Nat → UniqueId} {index : Nat} {items : List StockItem}
    {lines : List StockReserveLine}
    (known : ∀ line ∈ lines,
      line.productCode ∈ items.map StockItem.productCode)
    (fits : ∀ item ∈ items, item.productCode ∈ lines.map
      StockReserveLine.productCode →
        requestedTotal lines item.productCode ≤ item.availableUnits) :
    ∃ result, reserveLines order retailerCode newId index items lines =
      .ok result := by
  induction lines generalizing index items with
  | nil => exact ⟨_, rfl⟩
  | cons line rest inductionHypothesis =>
      rcases itemOf_isSome_iff.mpr (known line List.mem_cons_self) with
        ⟨item, found⟩
      rcases itemOf_eq_some found with ⟨itemMem, product⟩
      have here := fits item itemMem (by simp [product])
      have others := requestedTotal_nonneg rest item.productCode
      rw [requestedTotal_cons, if_pos product.symm] at here
      have accepted : ¬ item.reservedUnits + line.units.value > item.units := by
        unfold StockItem.availableUnits at here
        omega
      obtain ⟨item', reservation, reserved, sameProduct, left⟩ :
          ∃ item' reservation,
            item.reserve (newId index) order retailerCode line.units =
              .ok (item', reservation) ∧
            item'.productCode = item.productCode ∧
            item'.availableUnits = item.availableUnits - line.units.value := by
        refine ⟨_, _, if_neg accepted, rfl, ?_⟩
        simp only [StockItem.availableUnits]
        omega
      -- The products stay, and what is left is enough for the rest.
      have products : (replaceItem items item').map StockItem.productCode =
          items.map StockItem.productCode := by
        rw [replaceItem, List.map_map]
        refine List.map_congr_left fun other _ => ?_
        simp only [Function.comp_apply]
        split
        · rename_i same
          exact same.symm
        · rfl
      have knownRest : ∀ later ∈ rest,
          later.productCode ∈ (replaceItem items item').map
            StockItem.productCode := by
        intro later laterMem
        rw [products]
        exact known later (List.mem_cons_of_mem line laterMem)
      have fitsRest : ∀ other ∈ replaceItem items item',
          other.productCode ∈ rest.map StockReserveLine.productCode →
            requestedTotal rest other.productCode ≤ other.availableUnits := by
        intro other otherMem requested
        rcases List.mem_map.mp otherMem with ⟨before, beforeMem, rfl⟩
        by_cases same : before.productCode = item'.productCode
        · rw [if_pos same, left, sameProduct]
          omega
        · rw [if_neg same] at requested ⊢
          have enough := fits before beforeMem
            (List.mem_cons_of_mem line.productCode requested)
          have differs : line.productCode ≠ before.productCode := by
            rw [← product, ← sameProduct]
            exact Ne.symm same
          rw [requestedTotal_cons, if_neg differs, Int.zero_add] at enough
          exact enough
      obtain ⟨⟨items', references⟩, rested⟩ :=
        @inductionHypothesis (index + 1) _ knownRest fitsRest
      refine ⟨(items', ⟨reservation.id, reservation.productCode,
        reservation.units⟩ :: references), ?_⟩
      simp only [reserveLines, found, bind_eq_ok_iff]
      exact ⟨_, reserved, _, rested, rfl⟩

/-! ## The operation -/

namespace ReserveOrderOutcome

/-- The items after the operation. -/
def itemsAfter (before : List StockItem) : ReserveOrderOutcome → List StockItem
  | reserved items _ => items
  | rejected items _ => items
  | withoutCarrier => before

/-- The outcome is `reserved`; the other two are answered as rejections. -/
def IsReserved : ReserveOrderOutcome → Prop
  | reserved _ _ => True
  | _ => False

end ReserveOrderOutcome

/-- The item takes the reservations of its lines, one each, and counts their
units. -/
structure TakesLines (request : StockReserveRequest) (item item' : StockItem) :
    Prop where
  same : item'.id = item.id ∧ item'.companyCode = item.companyCode ∧
    item'.productCode = item.productCode ∧ item'.units = item.units ∧
    item'.lowStockThreshold = item.lowStockThreshold
  counted : item'.reservedUnits =
    item.reservedUnits + requestedTotal request.lines item.productCode
  added : ∃ added, item'.reservations = item.reservations ++ added ∧
    added.map Reservation.units =
      (request.lines.filter (·.productCode = item.productCode)).map
        StockReserveLine.units ∧
    ∀ reservation ∈ added,
      reservation.orderReference = request.orderReference ∧
        reservation.status = .reserved ∧
        reservation.productCode = item.productCode
  untouched : item.productCode ∉
    request.lines.map StockReserveLine.productCode → item' = item

/-- The item has its counters and its reservations still. -/
def KeepsStock (item item' : StockItem) : Prop :=
  { item' with domainEvents := item.domainEvents } = item

/-- One of the items got the fact; the others' facts are what they were. -/
def RecordsOnce (items items' : List StockItem) (fact : Fact) : Prop :=
  ∃ carrier ∈ items,
    items'.map StockItem.domainEvents = items.map fun item =>
      if item.productCode = carrier.productCode then item.domainEvents ++ [fact]
      else item.domainEvents

/-- All lines are reserved, or no stock is touched; and one fact says which. -/
structure AllOrNothing (items : List StockItem) (request : StockReserveRequest)
    (outcome : ReserveOrderOutcome) : Prop where
  decided : outcome.IsReserved ↔
    ∀ line ∈ request.lines, IsServed items request.lines line
  all : outcome.IsReserved →
    List.Forall₂ (TakesLines request) items (outcome.itemsAfter items) ∧
      ((outcome.itemsAfter items).flatMap StockItem.reservations).length =
        (items.flatMap StockItem.reservations).length + request.lines.length
  nothing : ¬ outcome.IsReserved →
    List.Forall₂ KeepsStock items (outcome.itemsAfter items)
  recorded : (∃ line ∈ request.lines,
      line.productCode ∈ items.map StockItem.productCode) →
    ∃ fact : Fact, fact.orderReference = request.orderReference ∧
      (outcome.IsReserved → fact.eventType = .stockReserved) ∧
      (¬ outcome.IsReserved → fact.eventType = .stockRejected) ∧
      RecordsOnce items (outcome.itemsAfter items) fact
  silent : (∀ line ∈ request.lines,
      line.productCode ∉ items.map StockItem.productCode) →
    outcome.itemsAfter items = items

section Effect

variable {items : List StockItem} {request : StockReserveRequest}
  {newId : Nat → UniqueId}

theorem takesLines_afterReserve (item : StockItem) :
    let item' := item.afterReserve request.orderReference request.retailerCode
      newId 0 request.lines
    item'.reservedUnits =
        item.reservedUnits + requestedTotal request.lines item.productCode ∧
      ∃ added, item'.reservations = item.reservations ++ added ∧
        added.map Reservation.units =
          (request.lines.filter (·.productCode = item.productCode)).map
            StockReserveLine.units ∧
        ∀ reservation ∈ added,
          reservation.orderReference = request.orderReference ∧
            reservation.status = .reserved ∧
            reservation.productCode = item.productCode := by
  constructor
  · simp only [StockItem.afterReserve, unitsOf_freshFor]
  · refine ⟨_, rfl, map_units_freshFor 0 request.lines item, ?_⟩
    intro reservation fresh
    rcases mem_freshFor fresh with ⟨ofOrder, reserved, _, product, _⟩
    exact ⟨ofOrder, reserved, product⟩

/-- An item no line is for gets nothing. -/
theorem afterReserve_of_notMem {item : StockItem}
    (absent : item.productCode ∉
      request.lines.map StockReserveLine.productCode) :
    item.afterReserve request.orderReference request.retailerCode newId 0
      request.lines = item := by
  have nothing : freshFor request.orderReference request.retailerCode newId 0
      request.lines item = [] := by
    rw [List.eq_nil_iff_forall_not_mem]
    intro reservation fresh
    exact absent (mem_freshFor fresh).2.2.2.2.1
  simp [StockItem.afterReserve, nothing]

/-- A line has exactly one item among items of different products. -/
theorem sum_ite_productCode {productCode : String}
    (distinct : (items.map StockItem.productCode).Nodup)
    (known : productCode ∈ items.map StockItem.productCode) :
    (items.map fun item => if item.productCode = productCode then 1 else 0).sum =
      1 := by
  induction items with
  | nil => cases known
  | cons item rest inductionHypothesis =>
      rw [List.map_cons, List.nodup_cons] at distinct
      rw [List.map_cons, List.sum_cons]
      by_cases here : item.productCode = productCode
      · have noOther : (rest.map fun other =>
            if other.productCode = productCode then 1 else 0) =
              rest.map fun _ => 0 := by
          refine List.map_congr_left fun other otherMem => if_neg ?_
          rintro same
          exact distinct.1 (List.mem_map.mpr ⟨other, otherMem, same.trans here.symm⟩)
        rw [noOther, if_pos here]
        simp
      · have inRest : productCode ∈ rest.map StockItem.productCode := by
          rcases List.mem_cons.mp known with same | inRest
          · exact absurd same.symm here
          · exact inRest
        rw [if_neg here, inductionHypothesis distinct.2 inRest]

/-- The items' lines are the lines, each counted once. -/
theorem sum_length_filter_lines {lines : List StockReserveLine}
    (distinct : (items.map StockItem.productCode).Nodup)
    (known : ∀ line ∈ lines,
      line.productCode ∈ items.map StockItem.productCode) :
    (items.map fun item =>
      (lines.filter (·.productCode = item.productCode)).length).sum =
        lines.length := by
  induction lines with
  | nil => simp
  | cons line rest inductionHypothesis =>
      have ofRest := inductionHypothesis fun later laterMem =>
        known later (List.mem_cons_of_mem line laterMem)
      have ofLine := sum_ite_productCode distinct (known line List.mem_cons_self)
      have split : ∀ item ∈ items,
          ((line :: rest).filter (·.productCode = item.productCode)).length =
            (if item.productCode = line.productCode then 1 else 0) +
              (rest.filter (·.productCode = item.productCode)).length := by
        intro item _
        by_cases here : line.productCode = item.productCode
        · simp [here, Nat.add_comm]
        · simp [here, Ne.symm here]
      rw [List.map_congr_left split, List.sum_map_add, ofLine, ofRest,
        List.length_cons, Nat.add_comm]

/-- As many reservations are added as there are lines. -/
theorem length_reservations_afterReserve
    (distinct : (items.map StockItem.productCode).Nodup)
    (known : ∀ line ∈ request.lines,
      line.productCode ∈ items.map StockItem.productCode) :
    ((items.map (StockItem.afterReserve request.orderReference
      request.retailerCode newId 0 request.lines)).flatMap
        StockItem.reservations).length =
      (items.flatMap StockItem.reservations).length + request.lines.length := by
  have perItem : ∀ item ∈ items,
      ((StockItem.reservations ∘ StockItem.afterReserve request.orderReference
        request.retailerCode newId 0 request.lines) item).length =
      item.reservations.length +
        (request.lines.filter (·.productCode = item.productCode)).length := by
    intro item _
    have units := congrArg List.length (@map_units_freshFor request.orderReference
      request.retailerCode newId 0 request.lines item)
    rw [List.length_map, List.length_map] at units
    simp only [Function.comp_apply, StockItem.afterReserve, List.length_append, units]
  rw [List.flatMap_map, List.length_flatMap, List.length_flatMap]
  have summed := List.map_congr_left perItem
  simp only [Function.comp_apply] at summed
  rw [summed, List.sum_map_add, sum_length_filter_lines distinct known]

/-- Recording a fact gives it to the carrier's item. -/
theorem recordsOnce_recordOnCarrier {changed : StockItem → StockItem}
    {carrier : StockItem} {fact : Fact} (carrierMem : carrier ∈ items)
    (keepsProduct : ∀ item, (changed item).productCode = item.productCode)
    (keepsEvents : ∀ item, (changed item).domainEvents = item.domainEvents) :
    RecordsOnce items (recordOnCarrier (items.map changed) carrier fact) fact := by
  refine ⟨carrier, carrierMem, ?_⟩
  rw [recordOnCarrier, List.map_map, List.map_map]
  refine List.map_congr_left fun item _ => ?_
  simp only [Function.comp_apply, keepsProduct]
  split
  · simp [StockItem.recordOrderFact, keepsEvents]
  · exact keepsEvents item

/-- Every outcome is all or nothing. -/
theorem ReserveOrderEffect.allOrNothing {outcome : ReserveOrderOutcome}
    (distinct : (items.map StockItem.productCode).Nodup)
    (nonempty : request.lines ≠ [])
    (carried : (∀ line ∈ request.lines,
      line.productCode ∉ items.map StockItem.productCode) →
        outcome = .withoutCarrier)
    (effect : ReserveOrderEffect items request newId outcome) :
    AllOrNothing items request outcome := by
  cases effect with
  | withoutCarrier unknown =>
      have noneKnown : ∀ line ∈ request.lines,
          line.productCode ∉ items.map StockItem.productCode :=
        fun line lineMem => itemOf_eq_none_iff.mp (unknown line lineMem)
      refine ⟨⟨False.elim, ?_⟩, False.elim, ?_, ?_, fun _ => rfl⟩
      · intro served
        rcases List.exists_mem_of_ne_nil _ nonempty with ⟨line, lineMem⟩
        rcases served line lineMem with ⟨item, itemMem, same, _⟩
        exact noneKnown line lineMem (List.mem_map.mpr ⟨item, itemMem, same⟩)
      · intro _
        exact List.forall₂_same.mpr fun _ _ => rfl
      · rintro ⟨line, lineMem, known⟩
        exact absurd known (noneKnown line lineMem)
  | rejected carrier payload carrierMem short ofOrder =>
      refine ⟨⟨False.elim, ?_⟩, False.elim, ?_, ?_, ?_⟩
      · intro served
        exact absurd ((shortagesOf_eq_nil_iff distinct).mpr served) short
      · intro _
        rw [ReserveOrderOutcome.itemsAfter, recordOnCarrier,
          List.forall₂_map_right_iff, List.forall₂_same]
        intro item _
        unfold KeepsStock
        split <;> rfl
      · intro _
        refine ⟨.stockRejected payload, ofOrder, False.elim, fun _ => rfl, ?_⟩
        have once := @recordsOnce_recordOnCarrier items id carrier
          (.stockRejected payload) carrierMem (fun _ => rfl) (fun _ => rfl)
        rwa [List.map_id] at once
      · intro noneKnown
        cases carried noneKnown
  | reserved carrier payload carrierMem requested served ofOrder =>
      have allServed := (shortagesOf_eq_nil_iff distinct).mp served
      have allKnown : ∀ line ∈ request.lines,
          line.productCode ∈ items.map StockItem.productCode := by
        intro line lineMem
        rcases allServed line lineMem with ⟨item, itemMem, same, _⟩
        exact List.mem_map.mpr ⟨item, itemMem, same⟩
      refine ⟨⟨fun _ => allServed, fun _ => trivial⟩, ?_, ?_, ?_, ?_⟩
      · intro _
        constructor
        · rw [ReserveOrderOutcome.itemsAfter, recordOnCarrier, List.map_map,
            List.forall₂_map_right_iff, List.forall₂_same]
          intro item _
          have takes := @takesLines_afterReserve request newId item
          simp only [Function.comp_apply]
          split
          · rename_i isCarrier
            refine ⟨⟨rfl, rfl, rfl, rfl, rfl⟩, takes.1, takes.2, ?_⟩
            intro absent
            exact absurd (isCarrier ▸ requested) absent
          · refine ⟨⟨rfl, rfl, rfl, rfl, rfl⟩, takes.1, takes.2, ?_⟩
            exact afterReserve_of_notMem
        · have reservations := recordOnCarrier_fields
            (items.map (StockItem.afterReserve request.orderReference
              request.retailerCode newId 0 request.lines)) carrier
            (.stockReserved payload) StockItem.reservations fun _ => rfl
          rw [ReserveOrderOutcome.itemsAfter, List.flatMap_def, reservations,
            ← List.flatMap_def]
          exact length_reservations_afterReserve distinct allKnown
      · exact fun notReserved => absurd trivial notReserved
      · intro _
        refine ⟨.stockReserved payload, ofOrder, fun _ => rfl,
          fun notReserved => absurd trivial notReserved, ?_⟩
        exact recordsOnce_recordOnCarrier carrierMem (fun _ => rfl) fun _ => rfl
      · intro noneKnown
        rcases List.exists_mem_of_ne_nil _ nonempty with ⟨line, lineMem⟩
        exact absurd (allKnown line lineMem) (noneKnown line lineMem)

/-- Where no line's product is known there is no item to carry a fact. -/
theorem reserveOrderStock_of_unknown
    (noneKnown : ∀ line ∈ request.lines,
      line.productCode ∉ items.map StockItem.productCode) :
    reserveOrderStock items request newId = .ok .withoutCarrier := by
  have noItem : (request.lines.findSome? fun line =>
      itemOf items line.productCode) = none :=
    List.findSome?_eq_none_iff.mpr fun line lineMem =>
      itemOf_eq_none_iff.mpr (noneKnown line lineMem)
  simp only [reserveOrderStock, noItem]
  split <;> rfl

/-- The operation never refuses part-way. -/
theorem reserveOrderStock_isOk
    (distinct : (items.map StockItem.productCode).Nodup) :
    ∃ outcome, reserveOrderStock items request newId = .ok outcome := by
  simp only [reserveOrderStock]
  split
  · split
    · exact ⟨_, rfl⟩
    · exact ⟨_, rfl⟩
  · rename_i served
    have served := not_not.mp served
    split
    · exact ⟨_, rfl⟩
    · have known : ∀ line ∈ request.lines,
          line.productCode ∈ items.map StockItem.productCode := by
        intro line lineMem
        rcases (shortagesOf_eq_nil_iff distinct).mp served line lineMem with
          ⟨item, itemMem, same, _⟩
        exact List.mem_map.mpr ⟨item, itemMem, same⟩
      obtain ⟨⟨items', references⟩, reserved⟩ := @reserveLines_isOk
        request.orderReference request.retailerCode newId 0 items request.lines
        known fun item itemMem requested =>
          requestedTotal_le_of_shortagesOf_eq_nil distinct itemMem served requested
      simp only [bind_eq_ok_iff]
      exact ⟨_, _, reserved, rfl⟩

end Effect

theorem allOrNothing_of_accepted {items : List StockItem}
    {request : StockReserveRequest} {newId : Nat → UniqueId}
    {outcome : ReserveOrderOutcome}
    (distinct : (items.map StockItem.productCode).Nodup)
    (nonempty : request.lines ≠ [])
    (accepted : reserveOrderStock items request newId = .ok outcome) :
    AllOrNothing items request outcome := by
  apply (reserveOrderStock_effect distinct accepted).allOrNothing distinct nonempty
  intro noneKnown
  rw [reserveOrderStock_of_unknown noneKnown, Except.ok.injEq] at accepted
  exact accepted.symm

/-- Reserving an order's lines is all or nothing, whatever products they name
and however often. -/
theorem reserveOrderStock_allOrNothing {items : List StockItem}
    {request : StockReserveRequest} (newId : Nat → UniqueId)
    (distinct : (items.map StockItem.productCode).Nodup)
    (nonempty : request.lines ≠ []) :
    ∃ outcome, reserveOrderStock items request newId = .ok outcome ∧
      AllOrNothing items request outcome := by
  obtain ⟨outcome, accepted⟩ := @reserveOrderStock_isOk items request newId distinct
  exact ⟨outcome, accepted, allOrNothing_of_accepted distinct nonempty accepted⟩

/-- Five units of a product, of which one is reserved. -/
def stockOfFive : StockItem :=
  { id := ⟨1⟩
    companyCode := "COM-0001"
    productCode := "P-1"
    units := 5
    reservedUnits := 1
    lowStockThreshold := 0
    reservations := []
    domainEvents := [] }

/-- Two lines of one product, as many units each as given. -/
def requestOfTwoLines (units : Quantity) : StockReserveRequest :=
  { orderReference := ⟨7⟩
    retailerCode := "RET-0001"
    companyCode := "COM-0001"
    lines := [⟨"P-1", units⟩, ⟨"P-1", units⟩] }

theorem stockOfFive_allOrNothing :
    ∃ outcome, reserveOrderStock [stockOfFive] (requestOfTwoLines ⟨2, by decide⟩)
        UniqueId.mk = .ok outcome ∧
      AllOrNothing [stockOfFive] (requestOfTwoLines ⟨2, by decide⟩) outcome :=
  reserveOrderStock_allOrNothing UniqueId.mk (by decide) (by decide)

end OrderToCash.Fulfillment
