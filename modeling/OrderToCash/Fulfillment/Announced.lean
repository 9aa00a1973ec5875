import OrderToCash.Fulfillment.ReservedUnits
import OrderToCash.Fulfillment.StockBalance
import OrderToCash.Log.Journal

/-!
# What Fulfillment announces

The outbox is a journal of the despatch advices, which are numbered without a
gap.  The reservations have no journal in that sense, because their rows change:
a reservation is told of when it is made and again when it is released or
consumed.  Taken together the facts still tell of every reservation row what it
says, and of nothing else.
-/

namespace OrderToCash.Fulfillment

open OrderToCash.Checked
open OrderToCash.Contracts
open OrderToCash.Kernel
open OrderToCash.Log
open OrderToCash.Transition

/-! ## What the facts tell -/

def orderDespatched? : Fact → Option OrderDespatchedPayload
  | .orderDespatched payload => some payload
  | _ => none

/-- The reservations a fact tells of as made. -/
def reservationsTold : Fact → List (OrderNumber × ReservationRef)
  | .stockReserved payload => payload.reservations.map (payload.orderReference, ·)
  | _ => []

/-- The reservations a fact tells of as released. -/
def releasesTold : Fact → List (OrderNumber × ReservationRef)
  | .stockReleased payload => payload.released.map (payload.orderReference, ·)
  | _ => []

/-- The units a fact tells of as despatched. -/
def consumptionsTold : Fact → List (OrderNumber × DespatchLine)
  | .orderDespatched payload => payload.lines.map (payload.orderReference, ·)
  | _ => []

/-- What Fulfillment tells. -/
def stockFacts : List EventType :=
  [.stockReserved, .stockRejected, .stockReleased, .orderDespatched]

/-! ## What the rows say -/

/-- An advice as it is announced. -/
def DespatchAdvice.announcement (despatch : DespatchAdvice) : OrderDespatchedPayload :=
  { orderReference := despatch.orderReference
    despatchReference := despatch.despatchReference
    companyCode := despatch.companyCode
    retailerCode := despatch.retailerCode
    lines := despatch.lines }

/-- A reservation as it is told of. -/
def ReservationRow.reference (row : ReservationRow) : OrderNumber × ReservationRef :=
  (row.reservation.orderReference, reservationRef row.reservation)

/-- A reservation as a despatch tells of it. -/
def ReservationRow.despatchLine (row : ReservationRow) : OrderNumber × DespatchLine :=
  (row.reservation.orderReference, ⟨row.reservation.productCode, row.reservation.units⟩)

def ReservationRow.HasStatus (status : ReservationStatus) (row : ReservationRow) : Bool :=
  row.reservation.status = status

/-- A settlement of the order's reservations on the selected stock rows changes
the row. -/
def ReservationRow.IsSettledBy (order : OrderNumber) (selected : UniqueId → Bool)
    (row : ReservationRow) : Bool :=
  selected row.stockId && row.reservation.IsReservedBy order

/-- The outbox tells of the advices one by one, and of all reservations what has
become of them. -/
structure FulfillmentDb.Announced (db : FulfillmentDb) : Prop where
  despatches : Journal orderDespatched? (fun payload row => payload = row.announcement)
    db.outbox db.despatches
  numbered : db.despatches.map (·.despatchReference) =
    List.range' 1 db.despatches.length
  next : db.nextDespatchNumber = db.despatches.length + 1
  reservations : (db.outbox.flatMap reservationsTold).Perm
    (db.reservations.map ReservationRow.reference)
  releases : (db.outbox.flatMap releasesTold).Perm
    ((db.reservations.filter (·.HasStatus .released)).map ReservationRow.reference)
  consumptions : (db.outbox.flatMap consumptionsTold).Perm
    ((db.reservations.filter (·.HasStatus .consumed)).map ReservationRow.despatchLine)
  facts : ∀ fact ∈ db.outbox, fact.eventType ∈ stockFacts

/-! ## What the order-scoped operations tell -/

section Operations

variable {items items' : List StockItem} {order : OrderNumber}

/-- The fact of a granted reservation has one reference for each line. -/
theorem domainEvents_of_reserved {request : StockReserveRequest}
    {newId : Nat → UniqueId} {references : List ReservationRef}
    (distinct : (items.map StockItem.productCode).Nodup)
    (noEvents : ∀ item ∈ items, item.domainEvents = [])
    (decided : reserveOrderStock items request newId = .ok (.reserved items' references)) :
    items'.flatMap StockItem.domainEvents =
      [.stockReserved
        { orderReference := request.orderReference
          companyCode := request.companyCode
          retailerCode := request.retailerCode
          reservations := referencesFor newId 0 request.lines }] := by
  simp only [reserveOrderStock] at decided
  split at decided
  · split at decided <;> cases decided
  · split at decided
    · cases decided
    · rename_i carrier found
      rcases bind_eq_ok_iff.mp decided with ⟨⟨reserved, references'⟩, taken, decided⟩
      rcases reserveLines_eq_ok distinct taken with ⟨rfl, rfl⟩
      cases decided
      rcases List.exists_of_findSome?_eq_some found with ⟨line, _, foundItem⟩
      rw [flatMap_domainEvents_recordOnCarrier]
      · rw [List.map_map]
        exact distinct
      · intro item itemMem
        rcases List.mem_map.mp itemMem with ⟨before, beforeMem, rfl⟩
        exact noEvents before beforeMem
      · rw [List.map_map]
        exact List.mem_map_of_mem (itemOf_eq_some foundItem).1

/-- The fact of a release has a reference for each reservation released. -/
theorem domainEvents_of_released {companyCode : String} {reason : StockReleaseReason}
    {references : List ReservationRef}
    (distinct : (items.map StockItem.productCode).Nodup)
    (noEvents : ∀ item ∈ items, item.domainEvents = [])
    (decided : releaseOrderStock items order companyCode reason =
      .ok (.released items' references)) :
    ∃ payload : StockReleasedPayload,
      payload.orderReference = order ∧
        payload.released = (reservedOver order items).map reservationRef ∧
          items'.flatMap StockItem.domainEvents = [.stockReleased payload] := by
  rcases bind_eq_ok_iff.mp decided with ⟨⟨released, entries⟩, releasedItems, decided⟩
  rcases releaseItems_eq_ok releasedItems with ⟨_, rfl, same, carriers⟩
  cases entries with
  | nil => cases decided
  | cons entry rest =>
      rcases entry with ⟨carrier, first⟩
      cases decided
      have told : (((carrier, first) :: rest).map fun entry => reservationRef entry.2) =
          (reservedOver order items).map reservationRef := by
        have moved : ((carrier, first) :: rest).map (fun entry => reservationRef entry.2) =
            (((carrier, first) :: rest).map Prod.snd).map reservationRef := by
          rw [List.map_map]
          rfl
        rw [moved, same, List.map_map]
        apply List.map_congr_left
        intro reservation _
        have fields := Reservation.moveTo_fields order .released reservation
        simp [reservationRef, fields]
      let payload : StockReleasedPayload :=
        { orderReference := order
          companyCode := companyCode
          retailerCode := first.retailerCode
          released := ((carrier, first) :: rest).map fun entry => reservationRef entry.2
          reason := reason }
      refine ⟨payload, rfl, told, ?_⟩
      apply flatMap_domainEvents_recordOnCarrier
      · rw [List.map_map]
        exact distinct
      · intro item itemMem
        rcases List.mem_map.mp itemMem with ⟨before, beforeMem, rfl⟩
        exact noEvents before beforeMem
      · exact List.mem_map_of_mem (carriers _ List.mem_cons_self)

/-- An advice comes with its announcement. -/
theorem domainEvents_of_despatched {companyCode retailerCode : String}
    {despatchReference : Nat} {despatchId : UniqueId} {despatch : DespatchAdvice}
    (decided : createDespatchForOrder items order companyCode retailerCode
      despatchReference despatchId = .ok (.created items' despatch)) :
    despatch.despatchReference = despatchReference ∧
      despatch.domainEvents = [.orderDespatched despatch.announcement] := by
  simp only [createDespatchForOrder, bind_eq_ok_iff] at decided
  rcases decided with ⟨⟨consumedItems, consumed⟩, _, decided⟩
  split at decided
  · cases decided
  · rename_i notEmpty
    rcases bind_eq_ok_iff.mp decided with ⟨created, isCreated, decided⟩
    rw [DespatchAdvice.create, if_neg notEmpty] at isCreated
    cases isCreated
    cases decided
    exact ⟨rfl, rfl⟩

end Operations

/-! ## Fresh reservations -/

section Fresh

variable {order : OrderNumber} {retailerCode : String} {newId : Nat → UniqueId}
  {items : List StockItem}

/-- One line puts one reservation on items of different products. -/
theorem references_line (distinct : (items.map StockItem.productCode).Nodup)
    {line : StockReserveLine}
    (known : line.productCode ∈ items.map StockItem.productCode) (index : Nat) :
    (items.flatMap (freshFor order retailerCode newId index [line])).map reservationRef =
      [⟨newId index, line.productCode, line.units⟩] := by
  induction items with
  | nil => cases known
  | cons item rest inductionHypothesis =>
      rw [List.map_cons, List.nodup_cons] at distinct
      rw [List.flatMap_cons, List.map_append]
      by_cases here : item.productCode = line.productCode
      · have none : rest.flatMap (freshFor order retailerCode newId index [line]) = [] := by
          apply List.flatMap_eq_nil_iff.mpr
          intro other otherMem
          have differs : other.productCode ≠ line.productCode := fun same =>
            distinct.1 (List.mem_map.mpr ⟨other, otherMem, same.trans here.symm⟩)
          simp [freshFor, differs]
        rw [none]
        simp [freshFor, here, reservationRef]
      · have later : line.productCode ∈ rest.map StockItem.productCode := by
          rcases List.mem_cons.mp known with same | later
          · exact absurd same.symm here
          · exact later
        rw [inductionHypothesis distinct.2 later]
        simp [freshFor, here]

/-- The fresh reservations are those the references name. -/
theorem references_perm (distinct : (items.map StockItem.productCode).Nodup)
    {lines : List StockReserveLine}
    (known : ∀ line ∈ lines, line.productCode ∈ items.map StockItem.productCode)
    (index : Nat) :
    ((items.flatMap (freshFor order retailerCode newId index lines)).map
      reservationRef).Perm (referencesFor newId index lines) := by
  induction lines generalizing index with
  | nil => simp [freshFor, referencesFor]
  | cons line rest inductionHypothesis =>
      have split : items.flatMap (freshFor order retailerCode newId index (line :: rest)) =
          items.flatMap fun item =>
            freshFor order retailerCode newId index [line] item ++
              freshFor order retailerCode newId (index + 1) rest item := by
        apply List.flatMap_congr
        intro item _
        simp only [freshFor]
        split <;> rfl
      have first : (items.flatMap (freshFor order retailerCode newId index [line])).map
          reservationRef = [⟨newId index, line.productCode, line.units⟩] :=
        references_line distinct (known line List.mem_cons_self) index
      have others := inductionHypothesis
        (fun other otherMem => known other (List.mem_cons_of_mem line otherMem)) (index + 1)
      rw [split, referencesFor]
      apply ((List.flatMap_append_perm _ _ _).symm.map reservationRef).trans
      rw [List.map_append, first]
      exact others.cons _

end Fresh

namespace FulfillmentDb

variable {db : FulfillmentDb}

/-- The rows a served request creates are those its fact names. -/
theorem reference_freshRows_perm (keyed : db.WellKeyed) {request : StockReserveRequest}
    (served : shortagesOf (db.loadRows request.orderReference (isLockedBy request))
      request.lines = []) :
    ((db.freshRows request).map ReservationRow.reference).Perm
      ((referencesFor db.newId 0 request.lines).map (request.orderReference, ·)) := by
  have distinct : ((db.loadRows request.orderReference (isLockedBy request)).map
      StockItem.productCode).Nodup := nodup_productCode_of_company keyed _ _ _
  have known : ∀ line ∈ request.lines, line.productCode ∈
      (db.loadRows request.orderReference (isLockedBy request)).map
        StockItem.productCode := by
    intro line lineMem
    rcases (shortagesOf_eq_nil_iff distinct).mp served line lineMem with
      ⟨item, itemMem, same, _⟩
    exact List.mem_map.mpr ⟨item, itemMem, same⟩
  have ofOrder : (db.freshRows request).map ReservationRow.reference =
      (((db.freshRows request).map ReservationRow.reservation).map reservationRef).map
        (request.orderReference, ·) := by
    rw [List.map_map, List.map_map]
    apply List.map_congr_left
    intro row rowMem
    simp only [Function.comp_apply, ReservationRow.reference, (mem_freshRows rowMem).1]
  rw [ofOrder, reservation_freshRows]
  exact (references_perm distinct known 0).map _

/-- Fresh rows are neither released nor consumed. -/
theorem filter_freshRows {request : StockReserveRequest} {status : ReservationStatus}
    (settled : status ≠ .reserved) :
    (db.freshRows request).filter (·.HasStatus status) = [] := by
  apply List.filter_eq_nil_iff.mpr
  intro row rowMem has
  rw [ReservationRow.HasStatus, (mem_freshRows rowMem).2.1] at has
  exact settled (of_decide_eq_true has).symm

/-! ## Settled reservations -/

/-- Settling changes no row but for its status. -/
theorem settleRow_reference (order : OrderNumber) (selected : UniqueId → Bool)
    (status : ReservationStatus) (row : ReservationRow) :
    (settleRow order selected status row).reference = row.reference ∧
      (settleRow order selected status row).despatchLine = row.despatchLine := by
  rcases settleRow_cases order selected status row with ⟨_, same⟩ | ⟨_, same⟩
  · rw [same]
    exact ⟨rfl, rfl⟩
  · rw [same]
    exact ⟨rfl, rfl⟩

/-- The rows that come to have the status are those that are settled. -/
theorem filter_settled_perm {κ : Type} (order : OrderNumber) (selected : UniqueId → Bool)
    {status : ReservationStatus} (settled : status ≠ .reserved) (shown : ReservationRow → κ)
    (kept : ∀ row, shown (settleRow order selected status row) = shown row)
    (rows : List ReservationRow) :
    (((rows.map (settleRow order selected status)).filter (·.HasStatus status)).map
        shown).Perm
      ((rows.filter (·.HasStatus status)).map shown ++
        (rows.filter (·.IsSettledBy order selected)).map shown) := by
  induction rows with
  | nil => exact .nil
  | cons row rest inductionHypothesis =>
      have shownRow := kept row
      rw [List.map_cons]
      rcases settleRow_cases order selected status row with ⟨isSettled, same⟩ | ⟨notSettled, same⟩
      · have reserved : ¬ row.HasStatus status = true := by
          rw [Bool.and_eq_true, Reservation.isReservedBy_iff] at isSettled
          rw [ReservationRow.HasStatus, isSettled.2.2, decide_eq_true_eq]
          exact settled.symm
        have becomes : (settleRow order selected status row).HasStatus status = true := by
          rw [same]
          exact decide_eq_true rfl
        have chosen : row.IsSettledBy order selected = true := isSettled
        rw [List.filter_cons_of_pos becomes, List.map_cons, shownRow,
          List.filter_cons_of_neg reserved, List.filter_cons_of_pos chosen, List.map_cons]
        exact (inductionHypothesis.cons _).trans List.perm_middle.symm
      · have unchosen : ¬ row.IsSettledBy order selected = true :=
          Bool.not_eq_true _ ▸ notSettled
        rw [same, List.filter_cons_of_neg unchosen]
        by_cases has : row.HasStatus status = true
        · rw [List.filter_cons_of_pos has, List.filter_cons_of_pos has, List.map_cons,
            List.map_cons]
          exact inductionHypothesis.cons _
        · rw [List.filter_cons_of_neg has, List.filter_cons_of_neg has]
          exact inductionHypothesis

/-- The rows of another status stay as they are. -/
theorem filter_settled_other (order : OrderNumber) (selected : UniqueId → Bool)
    {status other : ReservationStatus} (differs : status ≠ other)
    (settled : other ≠ .reserved) (rows : List ReservationRow) :
    (rows.map (settleRow order selected status)).filter (·.HasStatus other) =
      rows.filter (·.HasStatus other) := by
  induction rows with
  | nil => rfl
  | cons row rest inductionHypothesis =>
      rw [List.map_cons, List.filter_cons, List.filter_cons, inductionHypothesis]
      rcases settleRow_cases order selected status row with ⟨isSettled, same⟩ | ⟨_, same⟩
      · have reserved : row.HasStatus other = false := by
          rw [Bool.and_eq_true, Reservation.isReservedBy_iff] at isSettled
          rw [ReservationRow.HasStatus, isSettled.2.2]
          exact decide_eq_false settled.symm
        have becomes : (settleRow order selected status row).HasStatus other = false := by
          rw [same]
          exact decide_eq_false differs
        simp only [reserved, becomes, Bool.false_eq_true, if_false]
      · rw [same]

/-- What is reserved of the order on the loaded rows is what a settlement of them
changes. -/
theorem reservedOver_reference_perm (keyed : db.WellKeyed) (order : OrderNumber)
    (ids : List UniqueId) :
    ((reservedOver order (db.loadRows order (·.id ∈ ids))).map fun reservation =>
        (order, reservationRef reservation)).Perm
      ((db.reservations.filter (·.IsSettledBy order (· ∈ ids))).map
        ReservationRow.reference) := by
  have ofOrder : (db.reservations.filter (·.IsSettledBy order (· ∈ ids))).map
      ReservationRow.reference =
        ((db.reservations.filter (·.IsSettledBy order (· ∈ ids))).map
          ReservationRow.reservation).map fun reservation =>
            (order, reservationRef reservation) := by
    rw [List.map_map]
    apply List.map_congr_left
    intro row rowMem
    have isSettled := (List.mem_filter.mp rowMem).2
    rw [ReservationRow.IsSettledBy, Bool.and_eq_true,
      Reservation.isReservedBy_iff] at isSettled
    simp only [Function.comp_apply, ReservationRow.reference, isSettled.2.1]
  rw [ofOrder]
  exact (reservedOver_loadRows_perm keyed order ids).map _

theorem despatchLinesOf_perm (keyed : db.WellKeyed) (order : OrderNumber)
    (ids : List UniqueId) :
    ((despatchLinesOf order (db.loadRows order (·.id ∈ ids))).map (order, ·)).Perm
      ((db.reservations.filter (·.IsSettledBy order (· ∈ ids))).map
        ReservationRow.despatchLine) := by
  have references := (reservedOver_reference_perm keyed order ids).map
    fun told : OrderNumber × ReservationRef =>
      (told.1, (⟨told.2.productCode, told.2.units⟩ : DespatchLine))
  rw [List.map_map, List.map_map] at references
  rw [despatchLinesOf, List.map_map]
  exact references

/-! ## What the transactions announce -/

/-- The fact of a granted reservation names what its rows are. -/
theorem reserve_tells {db' : FulfillmentDb} {request : StockReserveRequest}
    {reply : FulfillmentReply} (keyed : db.WellKeyed)
    (accepted : db.reserve request = .ok (db', reply)) {payload : StockReservedPayload}
    (outbox : db'.outbox = db.outbox ++ [.stockReserved payload]) :
    payload =
      { orderReference := request.orderReference
        companyCode := request.companyCode
        retailerCode := request.retailerCode
        reservations := referencesFor db.newId 0 request.lines } := by
  simp only [reserve, bind_eq_ok_iff] at accepted
  rcases accepted with ⟨items, locked, accepted⟩
  have loaded : items =
      db.loadRows request.orderReference (isLockedBy request) :=
    lockForOrder_eq_ok keyed locked
  subst loaded
  have distinct : ((db.loadRows request.orderReference
      (isLockedBy request)).map StockItem.productCode).Nodup :=
    nodup_productCode_of_company keyed _ _ _
  split at accepted
  · cases accepted
    simp at outbox
  · rcases bind_eq_ok_iff.mp accepted with ⟨outcome, decided, accepted⟩
    cases outcome with
    | withoutCarrier => cases accepted
    | rejected items' shortages =>
        cases accepted
        cases reserveOrderStock_effect distinct decided with
        | rejected carrier rejection carrierMem =>
            have appended := List.append_cancel_left outbox
            rw [flatMap_domainEvents_recordOnCarrier distinct
              (domainEvents_loadRows _ _ _) (List.mem_map_of_mem carrierMem)] at appended
            cases appended
    | reserved items' references =>
        cases accepted
        have events := domainEvents_of_reserved distinct (domainEvents_loadRows _ _ _)
          decided
        have appended : items'.flatMap StockItem.domainEvents = [.stockReserved payload] :=
          List.append_cancel_left outbox
        rw [events] at appended
        cases appended
        rfl

/-- The fact of a release names what it releases. -/
theorem release_tells {db' : FulfillmentDb} {request : StockReleaseRequest}
    {ids : List UniqueId} {reply : FulfillmentReply} (keyed : db.WellKeyed)
    (accepted : db.release request ids = .ok (db', reply)) {payload : StockReleasedPayload}
    (outbox : db'.outbox = db.outbox ++ [.stockReleased payload]) :
    payload.orderReference = request.orderReference ∧
      payload.released =
        (reservedOver request.orderReference
          (db.loadRows request.orderReference (·.id ∈ ids))).map reservationRef := by
  simp only [release, bind_eq_ok_iff, ite_error_eq_ok_iff, not_not] at accepted
  rcases accepted with ⟨items, locked, complete, accepted⟩
  rcases lockByIdsForOrder_eq_ok keyed locked complete with ⟨loaded, distinct⟩
  cases items with
  | nil => cases accepted
  | cons first rest =>
      rcases bind_eq_ok_iff.mp accepted with ⟨outcome, decided, accepted⟩
      have noEvents : ∀ item ∈ first :: rest, item.domainEvents = [] := by
        rw [loaded]
        exact domainEvents_loadRows _ _ _
      cases outcome with
      | alreadyReleased =>
          cases accepted
          simp at outbox
      | released items' references =>
          cases accepted
          rcases domainEvents_of_released distinct noEvents decided with
            ⟨told, ofOrder, released, events⟩
          have appended : items'.flatMap StockItem.domainEvents =
              [.stockReleased payload] := List.append_cancel_left outbox
          rw [events] at appended
          cases appended
          rw [← loaded]
          exact ⟨ofOrder, released⟩

/-- A new advice has the next number, and what was recorded last announces it. -/
theorem createDespatch_tells {db' : FulfillmentDb} {request : DespatchCreateRequest}
    {ids : List UniqueId} {reply : FulfillmentReply} {despatch : DespatchAdvice}
    {payload : OrderDespatchedPayload}
    (accepted : db.createDespatch request ids = .ok (db', reply))
    (stored : db'.despatches = db.despatches ++ [{ despatch with domainEvents := [] }])
    (outbox : db'.outbox = db.outbox ++ [.orderDespatched payload]) :
    despatch.despatchReference = db.nextDespatchNumber ∧
      payload = despatch.announcement := by
  simp only [createDespatch, bind_eq_ok_iff, ite_error_eq_ok_iff] at accepted
  rcases accepted with ⟨items, _, _, accepted⟩
  split at accepted
  · rcases bind_eq_ok_iff.mp accepted with ⟨outcome, decided, accepted⟩
    cases outcome with
    | noReservations => cases accepted
    | created items' created =>
        rcases domainEvents_of_despatched decided with ⟨number, events⟩
        simp only [bind_eq_ok_iff, saveDespatch, ite_error_eq_ok_iff, Except.ok.injEq,
          Prod.mk.injEq] at accepted
        rcases accepted with ⟨saved, ⟨_, rfl⟩, rfl, _⟩
        have sameRow : { created with domainEvents := [] } =
            { despatch with domainEvents := [] } :=
          List.singleton_inj.mp (List.append_cancel_left stored)
        have sameFields : created.announcement = despatch.announcement ∧
            created.despatchReference = despatch.despatchReference := by
          cases created
          cases despatch
          cases sameRow
          exact ⟨rfl, rfl⟩
        change db.outbox ++ _ ++ created.domainEvents = _ at outbox
        rw [events] at outbox
        have last := (List.append_inj' outbox rfl).2
        rw [List.singleton_inj, Fact.orderDespatched.injEq, sameFields.1] at last
        exact ⟨sameFields.2 ▸ number, last.symm⟩
  · split at accepted
    · split at accepted
      · cases accepted
      · cases accepted
        simp at stored
    · cases accepted

/-! ## Every transaction keeps the announcements -/

theorem Announced.facts_concat (announced : db.Announced) {fact : Fact}
    (type : fact.eventType ∈ stockFacts) :
    ∀ other ∈ db.outbox ++ [fact], other.eventType ∈ stockFacts := by
  intro other otherMem
  rcases List.mem_append.mp otherMem with before | new
  · exact announced.facts other before
  · rwa [List.mem_singleton.mp new]

theorem Announced.reserve {db' : FulfillmentDb} (announced : db.Announced)
    (keyed : db.WellKeyed) {request : StockReserveRequest} {reply : FulfillmentReply}
    (accepted : db.reserve request = .ok (db', reply)) : db'.Announced := by
  cases reserve_effect keyed accepted with
  | repeated existing => exact announced
  | rejected payload =>
      exact
        { despatches := announced.despatches.silent rfl
          numbered := announced.numbered
          next := announced.next
          reservations := by simpa [recorded, reservationsTold] using announced.reservations
          releases := by simpa [recorded, releasesTold] using announced.releases
          consumptions := by
            simpa [recorded, consumptionsTold] using announced.consumptions
          facts := announced.facts_concat (by simp [Fact.eventType, stockFacts]) }
  | reserved payload first served =>
      have told := reserve_tells keyed accepted rfl
      subst told
      have released : (db.freshRows request).filter (·.HasStatus .released) = [] :=
        filter_freshRows (by simp)
      have consumed : (db.freshRows request).filter (·.HasStatus .consumed) = [] :=
        filter_freshRows (by simp)
      exact
        { despatches := announced.despatches.silent rfl
          numbered := announced.numbered
          next := announced.next
          reservations := by
            change (List.flatMap _ (db.outbox ++ [_])).Perm
              ((db.reservations ++ db.freshRows request).map _)
            rw [List.flatMap_append, List.map_append]
            apply announced.reservations.append
            simpa [reservationsTold] using (reference_freshRows_perm keyed served).symm
          releases := by
            change (List.flatMap _ (db.outbox ++ [_])).Perm
              (((db.reservations ++ db.freshRows request).filter _).map _)
            rw [List.flatMap_append, List.filter_append, released]
            simpa [releasesTold] using announced.releases
          consumptions := by
            change (List.flatMap _ (db.outbox ++ [_])).Perm
              (((db.reservations ++ db.freshRows request).filter _).map _)
            rw [List.flatMap_append, List.filter_append, consumed]
            simpa [consumptionsTold] using announced.consumptions
          facts := announced.facts_concat (by simp [Fact.eventType, stockFacts]) }

theorem Announced.release {db' : FulfillmentDb} (announced : db.Announced)
    (keyed : db.WellKeyed) {request : StockReleaseRequest} {ids : List UniqueId}
    {reply : FulfillmentReply} (accepted : db.release request ids = .ok (db', reply)) :
    db'.Announced := by
  cases release_effect keyed accepted with
  | repeated => exact announced
  | released payload =>
      rcases release_tells keyed accepted rfl with ⟨ofOrder, told⟩
      have unchanged : (db.reservations.map
          (settleRow request.orderReference (· ∈ ids) .released)).map
            ReservationRow.reference = db.reservations.map ReservationRow.reference := by
        rw [List.map_map]
        exact List.map_congr_left fun row _ => (settleRow_reference _ _ _ row).1
      exact
        { despatches := announced.despatches.silent rfl
          numbered := announced.numbered
          next := announced.next
          reservations := by
            change (List.flatMap _ (db.outbox ++ [_])).Perm ((List.map _ _).map _)
            rw [unchanged, List.flatMap_append]
            simpa [reservationsTold] using announced.reservations
          releases := by
            change (List.flatMap _ (db.outbox ++ [_])).Perm (((List.map _ _).filter _).map _)
            have settled := filter_settled_perm request.orderReference (· ∈ ids)
              (by simp : ReservationStatus.released ≠ .reserved) ReservationRow.reference
              (fun row => (settleRow_reference _ _ _ row).1) db.reservations
            apply List.Perm.trans _ settled.symm
            rw [List.flatMap_append]
            apply announced.releases.append
            have names := reservedOver_reference_perm keyed request.orderReference ids
            simpa [releasesTold, ofOrder, told, Function.comp_def] using names
          consumptions := by
            change (List.flatMap _ (db.outbox ++ [_])).Perm (((List.map _ _).filter _).map _)
            rw [filter_settled_other _ _ (by simp) (by simp), List.flatMap_append]
            simpa [consumptionsTold] using announced.consumptions
          facts := announced.facts_concat (by simp [Fact.eventType, stockFacts]) }

theorem Announced.createDespatch {db' : FulfillmentDb} (announced : db.Announced)
    (keyed : db.WellKeyed) {request : DespatchCreateRequest} {ids : List UniqueId}
    {reply : FulfillmentReply}
    (accepted : db.createDespatch request ids = .ok (db', reply)) : db'.Announced := by
  cases createDespatch_effect keyed accepted with
  | repeated => exact announced
  | created despatch payload noneReleased something absent ofOrder lines events =>
      have recorded : (db.afterDespatch despatch ids).outbox =
          db.outbox ++ [.orderDespatched payload] :=
        congrArg (db.outbox ++ ·) events
      rcases createDespatch_tells accepted rfl recorded with ⟨number, rfl⟩
      have unchanged : (db.reservations.map
          (settleRow despatch.orderReference (· ∈ ids) .consumed)).map
            ReservationRow.reference = db.reservations.map ReservationRow.reference := by
        rw [List.map_map]
        exact List.map_congr_left fun row _ => (settleRow_reference _ _ _ row).1
      have told : consumptionsTold (.orderDespatched despatch.announcement) =
          despatch.lines.map (despatch.orderReference, ·) := rfl
      exact
        { despatches := by
            rw [recorded]
            exact announced.despatches.append (.cons rfl .nil)
          numbered := by
            have reference : despatch.despatchReference = 1 + db.despatches.length := by
              rw [number, announced.next, Nat.add_comm]
            simp only [afterDespatch, List.map_append, List.map_singleton,
              List.length_append, List.length_singleton, announced.numbered,
              List.range'_concat, Nat.one_mul, reference]
          next := by
            simp only [afterDespatch, List.length_append, List.length_singleton,
              announced.next]
          reservations := by
            change (List.flatMap _ (afterDespatch _ _ _).outbox).Perm ((List.map _ _).map _)
            rw [recorded, unchanged, List.flatMap_append]
            simpa [reservationsTold] using announced.reservations
          releases := by
            change (List.flatMap _ (afterDespatch _ _ _).outbox).Perm
              (((List.map _ _).filter _).map _)
            rw [recorded, filter_settled_other _ _ (by simp) (by simp),
              List.flatMap_append]
            simpa [releasesTold] using announced.releases
          consumptions := by
            change (List.flatMap _ (afterDespatch _ _ _).outbox).Perm
              (((List.map _ _).filter _).map _)
            have settled := filter_settled_perm despatch.orderReference (· ∈ ids)
              (by simp : ReservationStatus.consumed ≠ .reserved) ReservationRow.despatchLine
              (fun row => (settleRow_reference _ _ _ row).2) db.reservations
            apply List.Perm.trans _ settled.symm
            rw [recorded, List.flatMap_append, List.flatMap_singleton, told, lines,
              ← ofOrder]
            apply announced.consumptions.append
            exact despatchLinesOf_perm keyed despatch.orderReference ids
          facts := by
            rw [recorded]
            exact announced.facts_concat (by simp [Fact.eventType, stockFacts]) }

end FulfillmentDb

/-! ## Over every run -/

namespace FulfillmentSystem

open FulfillmentDb

theorem announced_initial (catalogue : StockCatalogue) :
    (initial catalogue).db.Announced where
  despatches := Journal.empty
  numbered := rfl
  next := rfl
  reservations := .nil
  releases := .nil
  consumptions := .nil
  facts := List.forall_mem_nil _

theorem announced_transaction {db db' : FulfillmentDb} {call : FulfillmentCall}
    {reply : FulfillmentReply} (announced : db.Announced) (sound : db.Sound)
    (result : transaction db call = some (.ok (db', reply))) : db'.Announced := by
  cases call with
  | stockReserve request =>
      exact announced.reserve sound.keyed (Option.some.inj result)
  | stockRelease request stockIds =>
      exact announced.release sound.keyed (Option.some.inj result)
  | despatchLooked request => cases result
  | despatchCreate request stockIds =>
      exact announced.createDespatch sound.keyed (Option.some.inj result)
  | stockReplenish request =>
      rcases replenish_effect sound.keyed (Option.some.inj result) with ⟨added, rfl⟩
      exact { announced with }

theorem announced_step {system system' : FulfillmentSystem}
    {action : FulfillmentAction} (announced : system.db.Announced)
    (sound : system.db.Sound) (stepped : step system action = some system') :
    system'.db.Announced := by
  cases step_change stepped with
  | committed index call db reply found result =>
      exact announced_transaction announced sound result
  | received | nothingToRelease | alreadyDespatched | nothingToDespatch | located
  | refused | aborted => exact announced

/-- However requests are interleaved, lost or repeated, what Fulfillment announces
is what its tables say. -/
theorem stock_is_announced {catalogue : StockCatalogue} {system : FulfillmentSystem}
    (reached : Reachable step unguarded (initial catalogue) system) :
    system.db.Announced := by
  suffices kept : system.db.Sound ∧ system.db.Announced from kept.2
  induction reached with
  | refl => exact ⟨sound_initial catalogue, announced_initial catalogue⟩
  | tail _ _ stepped inductionHypothesis =>
      exact ⟨sound_step inductionHypothesis.1 stepped,
        announced_step inductionHypothesis.2 inductionHypothesis.1 stepped⟩

theorem despatched_stock_is_announced :
    ∃ system,
      Reachable step unguarded (initial twoProducts) system ∧
      system.db.outbox.map Fact.eventType = [.stockReserved, .orderDespatched] ∧
      system.db.Announced := by
  have runs : (execute step (fun state action => decide (unguarded state action))
      (initial twoProducts) releaseAgainstDespatch).map
        (fun system => system.db.outbox.map Fact.eventType) =
      some [.stockReserved, .orderDespatched] := by
    decide
  rcases Option.map_eq_some_iff.mp runs with ⟨system, ran, outbox⟩
  have reached : Reachable step unguarded (initial twoProducts) system :=
    reachable_of_execute ran
  exact ⟨system, reached, outbox, stock_is_announced reached⟩

end FulfillmentSystem

end OrderToCash.Fulfillment
