import Mathlib.Data.Prod.Lex
import OrderToCash.Fulfillment.Arbitration
import OrderToCash.Fulfillment.RowLocks
import OrderToCash.Locking.Service

/-!
# The Fulfillment service, lock by lock

What a transaction writes it has locked: the stock rows of its request, the
order's reservations on them, and the row of the despatch numbers where it takes
one.  So the service does the same whether its transactions run whole or take
their locks in turns.  They lock stock rows first, reservations after them and
the numbers last; where the database scans stock rows in one order, there is
always one that can go on.
-/

namespace OrderToCash.Fulfillment

open OrderToCash.Checked
open OrderToCash.Contracts
open OrderToCash.Kernel
open OrderToCash.Locking
open OrderToCash.Table
open OrderToCash.Transition

/-! ## What a transaction leaves alone -/

/-- The order whose reservations a call reads. -/
def FulfillmentCall.order : FulfillmentCall → Option OrderNumber
  | .stockReserve request => some request.orderReference
  | .stockRelease request _ => some request.orderReference
  | .despatchLooked request => some request.orderReference
  | .despatchCreate request _ => some request.orderReference
  | .stockReplenish _ => none

/-- The resources the transaction of a call may change. -/
def FulfillmentCall.Reaches (call : FulfillmentCall) (db : FulfillmentDb) :
    Resource → Prop
  | .stockRow id => ∃ row ∈ db.stock, call.locks row = true ∧ row.id = id
  | .reservations stockId order =>
      call.order = some order ∧ ∃ row ∈ db.stock, call.locks row = true ∧ row.id = stockId
  | .despatchNumbers =>
      ∃ request stockIds items, call = .despatchCreate request stockIds ∧
        db.lockByIdsForOrder stockIds request.orderReference = .ok items ∧
          FulfillmentDb.AllocatesNumber request.orderReference stockIds items

namespace FulfillmentDb

variable {db db' : FulfillmentDb}

/-- Stock rows that a change of the table leaves alone are read as before. -/
theorem readResource_stockRow {change : StockRow → StockRow}
    (stock : db'.stock = db.stock.map change)
    (keepsId : ∀ row, (change row).id = row.id) {id : UniqueId}
    (same : ∀ row ∈ db.stock, row.id = id → change row = row) :
    db'.readResource (.stockRow id) = db.readResource (.stockRow id) := by
  simp only [readResource, stock]
  apply find?_map_of_kept
  · intro row _
    rw [keepsId]
  · intro row stored isId
    exact same row stored (of_decide_eq_true isId)

/-- Reservations that a settlement leaves alone are read as before. -/
theorem readResource_reservations {order other : OrderNumber} {stockId : UniqueId}
    {ids : List UniqueId} {status : ReservationStatus}
    (reservations : db'.reservations =
      db.reservations.map (settleRow order (· ∈ ids) status))
    (elsewhere : ∀ row ∈ db.reservations, row.stockId = stockId → row.IsOf other →
      row.stockId ∉ ids ∨ other ≠ order) :
    db'.readResource (.reservations stockId other) =
      db.readResource (.reservations stockId other) := by
  simp only [readResource, reservations]
  apply filter_map_of_kept
  · intro row _
    have isOf : (settleRow order (· ∈ ids) status row).IsOf other ↔ row.IsOf other := by
      unfold settleRow
      split
      · exact iff_of_eq (congrArg (· = other)
          (Reservation.moveTo_fields order status row.reservation).2.1)
      · rfl
    simp only [(settleRow_fields order (· ∈ ids) status row).1, isOf]
  · intro row stored isSelected
    rcases of_decide_eq_true isSelected with ⟨onRow, isOf⟩
    rcases elsewhere row stored onRow isOf with notSelected | differs
    · rw [settleRow, if_neg (by simpa using notSelected)]
    · have notReserved : row.reservation.IsReservedBy order = false := by
        rw [← Bool.not_eq_true, Reservation.isReservedBy_iff]
        exact fun reserved => differs (isOf.symm.trans reserved.1)
      unfold settleRow
      rw [Reservation.moveTo_of_not_isReservedBy status notReserved, ite_self]

/-- A settlement of an order's reservations on some stock rows changes what its
call reaches. -/
theorem settled_frame (keyed : db.WellKeyed) {order : OrderNumber} {ids : List UniqueId}
    {status : ReservationStatus} {change : StockRow → StockRow}
    (stock : db'.stock = db.stock.map change)
    (keepsId : ∀ row, (change row).id = row.id)
    (onIds : ∀ row, row.id ∉ ids → change row = row)
    (reservations : db'.reservations =
      db.reservations.map (settleRow order (· ∈ ids) status))
    {call : FulfillmentCall} (locks : ∀ row, row.id ∈ ids → call.locks row = true)
    (ofOrder : call.order = some order) {resource : Resource}
    (isTable : resource ≠ .despatchNumbers) (apart : ¬ call.Reaches db resource) :
    db'.readResource resource = db.readResource resource := by
  cases resource with
  | despatchNumbers => exact absurd rfl isTable
  | stockRow id =>
      apply readResource_stockRow stock keepsId
      intro row stored isId
      apply onIds
      intro selected
      exact apart ⟨row, stored, locks row selected, isId⟩
  | reservations stockId other =>
      apply readResource_reservations reservations
      intro row stored onRow _
      by_cases sameOrder : other = order
      · left
        intro selected
        rcases keyed.onStock row stored with ⟨owner, ownerMem, sameId, _⟩
        have ownerSelected : owner.id ∈ ids := by
          rw [sameId]
          exact selected
        exact apart ⟨sameOrder ▸ ofOrder, owner, ownerMem, locks owner ownerSelected,
          sameId.trans onRow⟩
      · exact Or.inr sameOrder

theorem replenishedUnits_of_notMem {lines : List StockReplenishLine} {productCode : String}
    (unlisted : productCode ∉ lines.map StockReplenishLine.productCode) :
    replenishedUnits lines productCode = 0 := by
  have none : lines.filter (·.productCode = productCode) = [] := by
    rw [List.filter_eq_nil_iff]
    intro line lineMem same
    apply unlisted
    rw [← of_decide_eq_true same]
    exact List.mem_map_of_mem lineMem
  rw [replenishedUnits, none]
  rfl

/-- A despatch that allocates no number writes nothing. -/
theorem createDespatchLoaded_eq_self {request : DespatchCreateRequest}
    {stockIds : List UniqueId} {items : List StockItem} {number : Nat}
    {reply : FulfillmentReply}
    (made : db.createDespatchLoaded request stockIds items number = .ok (db', reply))
    (allocatesNot : ¬ AllocatesNumber request.orderReference stockIds items) :
    db' = db := by
  simp only [createDespatchLoaded, ite_error_eq_ok_iff, not_not] at made
  rcases made with ⟨complete, made⟩
  split at made
  · rename_i found
    have isReserved := List.find?_some found
    exact absurd ⟨complete, _, List.mem_of_find?_eq_some found,
      of_decide_eq_true isReserved⟩ allocatesNot
  · split at made
    · split at made
      · cases made
      · cases made
        rfl
    · cases made

end FulfillmentDb

namespace FulfillmentSystem

open FulfillmentDb

variable {db db' : FulfillmentDb} {call : FulfillmentCall} {reply : FulfillmentReply}

/-- A committed transaction changes only what its call reaches. -/
theorem transaction_frame (keyed : db.WellKeyed)
    (result : transaction db call = some (.ok (db', reply))) (resource : Resource)
    (apart : ¬ call.Reaches db resource) :
    db'.readResource resource = db.readResource resource := by
  cases call with
  | stockReserve request =>
      cases reserve_effect keyed (Option.some.inj result) with
      | repeated existing => rfl
      | rejected payload first short ofOrder => cases resource <;> rfl
      | reserved payload first served something ofOrder =>
          cases resource with
          | despatchNumbers => rfl
          | stockRow id =>
              refine readResource_stockRow rfl (fun row => ?_) fun row stored isId => ?_
              · split <;> rfl
              · apply if_neg
                exact fun locked => apart ⟨row, stored, locked, isId⟩
          | reservations stockId order =>
              have noFresh : (db.freshRows request).filter
                  (fun row => row.stockId = stockId ∧ row.IsOf order) = [] := by
                rw [List.filter_eq_nil_iff]
                intro row fresh isSelected
                rcases of_decide_eq_true isSelected with ⟨onRow, isOf⟩
                rcases mem_freshRows fresh with
                  ⟨ofOrder, _, ⟨stockRow, stored, locked, sameId, _⟩, _⟩
                exact apart ⟨congrArg some (ofOrder.symm.trans isOf), stockRow, stored,
                  locked, sameId.trans onRow⟩
              simp only [readResource, recorded, afterReserve, List.filter_append, noFresh,
                List.append_nil]
  | stockRelease request stockIds =>
      cases release_effect keyed (Option.some.inj result) with
      | repeated noneConsumed nothing => rfl
      | released payload noneConsumed something ofOrder sameReason =>
          by_cases isNumbers : resource = .despatchNumbers
          · subst isNumbers
            rfl
          · refine settled_frame keyed rfl (fun row => ?_) (fun row unselected => ?_) rfl
              (fun row => decide_eq_true) rfl isNumbers apart
            · split <;> rfl
            · exact if_neg unselected
  | despatchLooked request => cases result
  | despatchCreate request stockIds =>
      have made := Option.some.inj result
      rw [createDespatch_eq] at made
      simp only [bind_eq_ok_iff] at made
      rcases made with ⟨items, loaded, made⟩
      by_cases allocates : AllocatesNumber request.orderReference stockIds items
      · have isTable : resource ≠ .despatchNumbers := by
          rintro rfl
          exact apart ⟨request, stockIds, items, rfl, loaded, allocates⟩
        cases createDespatch_effect keyed (Option.some.inj result) with
        | repeated nothing consumed despatch found => rfl
        | created despatch payload noneReleased something absent ofOrder lines events
            payloadOfOrder =>
            have ofCall : (FulfillmentCall.despatchCreate request stockIds).order =
                some despatch.orderReference := congrArg some ofOrder.symm
            refine settled_frame keyed rfl (fun row => ?_) (fun row unselected => ?_) rfl
              (fun row => decide_eq_true) ofCall isTable apart
            · split <;> rfl
            · exact if_neg unselected
      · rw [createDespatchLoaded_eq_self made allocates]
  | stockReplenish request =>
      have changed := replenish_eq_ok keyed (Option.some.inj result)
      subst changed
      cases resource with
      | despatchNumbers => rfl
      | reservations stockId order => rfl
      | stockRow id =>
          refine readResource_stockRow rfl (fun row => ?_) fun row stored isId => ?_
          · split <;> rfl
          · by_cases ofCompany : row.companyCode = request.companyCode
            · have unlisted : row.productCode ∉
                  request.lines.map StockReplenishLine.productCode := fun listed =>
                apart ⟨row, stored, decide_eq_true ⟨ofCompany, listed⟩, isId⟩
              rw [if_pos ofCompany, replenishedUnits_of_notMem unlisted]
              simp
            · exact if_neg ofCompany

end FulfillmentSystem

/-! ## What a transaction holds in the end -/

section Held

variable {db : FulfillmentDb} {index : List StockRow}
  (sameIndex : db.stock.map StockRow.identity = index.map StockRow.identity)
  {scan : ScanOrder} {held : List Resource}
  {effect : FulfillmentDb → FulfillmentDb × FulfillmentResult}
include sameIndex

/-- Each stock row of a call is among those a scan comes by. -/
theorem map_id_scanned {call : FulfillmentCall} {scanned : List StockRow}
    (perm : scanned.Perm (index.filter call.locks)) {row : StockRow}
    (stored : row ∈ db.stock) (locked : call.locks row = true) :
    ∃ other ∈ scanned, other.id = row.id := by
  have listed : row.id ∈ (db.stock.filter call.locks).map StockRow.id :=
    List.mem_map_of_mem (List.mem_filter.mpr ⟨stored, locked⟩)
  rw [map_id_locked sameIndex call, ← (perm.map StockRow.id).mem_iff] at listed
  exact List.mem_map.mp listed

theorem held_of_lockItems (keyed : db.WellKeyed) (call : FulfillmentCall)
    (order : OrderNumber) {next : Except FulfillmentError (List StockItem) → RowProgram}
    (follows : Follows FulfillmentDb.readResource db
      (lockItems scan call (index.filter call.locks) order next) held (.publish effect)) :
    ∃ later, Follows FulfillmentDb.readResource db
        (next (FulfillmentDb.loadedItems (db.stock.filter call.locks)
          (db.reservationsOf order))) later (.publish effect) ∧
      (∀ resource ∈ later, resource ∈ held) ∧
      ∀ row ∈ db.stock, call.locks row = true →
        .stockRow row.id ∈ held ∧ .reservations row.id order ∈ held := by
  rcases follows_lockAll_publish follows with ⟨afterStock, rfl, onReservations⟩
  rw [inIndexOrder_collected sameIndex keyed] at onReservations
  rcases follows_lockAll_publish onReservations with ⟨later, rfl, onLoaded⟩
  rw [filter_found sameIndex, loadedItems_collected sameIndex keyed] at onLoaded
  refine ⟨later, onLoaded, ?_, ?_⟩
  · intro resource resourceMem
    exact List.mem_append_right _ (List.mem_append_right _ resourceMem)
  · intro row stored locked
    rw [filter_found sameIndex]
    rcases map_id_scanned sameIndex (scan.stock_perm call _) stored locked with
      ⟨onIndex, scanned, sameId⟩
    rcases map_id_scanned sameIndex (scan.reservations_perm call _) stored locked with
      ⟨other, otherScanned, sameOther⟩
    constructor
    · exact List.mem_append_left _
        (List.mem_map.mpr ⟨onIndex, scanned, congrArg Resource.stockRow sameId⟩)
    · exact List.mem_append_right _ (List.mem_append_left _ (List.mem_map.mpr
        ⟨other, otherScanned, congrArg (Resource.reservations · order) sameOther⟩))

/-- A transaction that is ready to commit holds all that its call reaches. -/
theorem reaches_held (keyed : db.WellKeyed) {call : FulfillmentCall}
    {program : RowProgram} (isProgram : rowProgram scan index call = some program)
    (follows : Follows FulfillmentDb.readResource db program held (.publish effect))
    (resource : Resource) (reaches : call.Reaches db resource) : resource ∈ held := by
  have ofTables : ∀ order, call.order = some order →
      (∀ row ∈ db.stock, call.locks row = true →
        .stockRow row.id ∈ held ∧ .reservations row.id order ∈ held) →
      resource ≠ .despatchNumbers → resource ∈ held := by
    intro order ofOrder holds isTable
    cases resource with
    | stockRow id =>
        rcases reaches with ⟨row, stored, locked, rfl⟩
        exact (holds row stored locked).1
    | reservations stockId other =>
        rcases reaches with ⟨ofOther, row, stored, locked, rfl⟩
        rw [ofOrder, Option.some.injEq] at ofOther
        subst ofOther
        exact (holds row stored locked).2
    | despatchNumbers => exact absurd rfl isTable
  cases call with
  | stockReserve request =>
      cases isProgram
      rcases held_of_lockItems sameIndex keyed (.stockReserve request) _ follows with
        ⟨later, _, _, holds⟩
      apply ofTables _ rfl holds
      rintro rfl
      rcases reaches with ⟨_, _, _, absurdity, _⟩
      cases absurdity
  | stockRelease request stockIds =>
      cases isProgram
      rcases held_of_lockItems sameIndex keyed (.stockRelease request stockIds) _ follows
        with ⟨later, _, _, holds⟩
      apply ofTables _ rfl holds
      rintro rfl
      rcases reaches with ⟨_, _, _, absurdity, _⟩
      cases absurdity
  | despatchLooked request => cases isProgram
  | despatchCreate request stockIds =>
      cases isProgram
      rcases held_of_lockItems sameIndex keyed (.despatchCreate request stockIds) _ follows
        with ⟨later, onLoaded, ofLater, holds⟩
      by_cases isNumbers : resource = .despatchNumbers
      · subst isNumbers
        rcases reaches with ⟨other, otherIds, items, same, loaded, allocates⟩
        cases same
        have isLoaded : FulfillmentDb.loadedItems
            (db.stock.filter (FulfillmentCall.despatchCreate request stockIds).locks)
            (db.reservationsOf request.orderReference) = .ok items := loaded
        rw [isLoaded, if_pos (by simpa [Except.toOption] using allocates)] at onLoaded
        rcases follows_lock_iff.mp onLoaded with ⟨_, absurdity⟩ | ⟨_, rfl, _⟩
        · cases absurdity
        · exact ofLater _ List.mem_cons_self
      · exact ofTables _ rfl holds isNumbers
  | stockReplenish request =>
      cases isProgram
      rcases follows_lockAll_publish follows with ⟨later, rfl, _⟩
      cases resource with
      | stockRow id =>
          rcases reaches with ⟨row, stored, locked, rfl⟩
          rcases map_id_scanned sameIndex
            (scan.stock_perm (.stockReplenish request) _) stored locked with
            ⟨onIndex, scanned, sameId⟩
          exact List.mem_append_left _
            (List.mem_map.mpr ⟨onIndex, scanned, congrArg Resource.stockRow sameId⟩)
      | reservations stockId order =>
          cases reaches.1
      | despatchNumbers =>
          rcases reaches with ⟨_, _, _, absurdity, _⟩
          cases absurdity

end Held

/-! ## The order of the locks -/

/-- Stock rows are locked by their place, then the reservations on them, and the
despatch numbers last. -/
def lockRank (place : UniqueId → Nat) : Resource → ℕ ×ₗ ℕ
  | .stockRow id => toLex (0, place id)
  | .reservations stockId _ => toLex (1, place stockId)
  | .despatchNumbers => toLex (2, 0)

/-- Whatever the statement, the stock rows of an index are scanned in one order, and
the reservations on them too: by the place of the stock row. -/
structure ScanOrder.InOneOrder (scan : ScanOrder) (ids : List UniqueId)
    (place : UniqueId → Nat) : Prop where
  stock : ∀ call rows, (rows.map StockRow.id).Sublist ids →
    (scan.stock call rows).Pairwise fun first second => place first.id < place second.id
  reservations : ∀ call rows, (rows.map StockRow.id).Sublist ids →
    (scan.reservations call rows).Pairwise fun first second =>
      place first.id < place second.id

/-- Scans by the index are in its order. -/
theorem ScanOrder.byIndex_inOneOrder {ids : List UniqueId} (distinct : ids.Nodup) :
    byIndex.InOneOrder ids (ids.idxOf ·) := by
  have sorted : ∀ rows : List StockRow, (rows.map StockRow.id).Sublist ids →
      rows.Pairwise fun first second => ids.idxOf first.id < ids.idxOf second.id :=
    fun rows sublist =>
      (@List.pairwise_map _ _ StockRow.id _ rows).mp ((pairwise_idxOf distinct).sublist sublist)
  exact ⟨fun _ => sorted, fun _ => sorted⟩

section Ascends

variable {scan : ScanOrder} {call : FulfillmentCall} {ids : List UniqueId}
  {place : UniqueId → Nat} {rows : List StockRow}
  (inOneOrder : scan.InOneOrder ids place) (indexed : (rows.map StockRow.id).Sublist ids)
include inOneOrder indexed

theorem ascends_lockStockRows {next : List StockRow → RowProgram}
    (goesOn : ∀ found, (next found).Ascends (lockRank place)
      ((scan.stock call rows).map fun row => .stockRow row.id)) :
    (lockStockRows scan call rows next).Ascends (lockRank place) [] := by
  apply Program.ascends_lockAll
  · intro row _ other absurdity
    cases absurdity
  · refine (inOneOrder.stock call rows indexed).imp fun {first second} before => ?_
    exact Prod.Lex.toLex_lt_toLex.mpr (Or.inr ⟨rfl, before⟩)
  · exact fun found => goesOn (inIndexOrder rows found)

theorem ascends_lockItems {order : OrderNumber}
    {next : Except FulfillmentError (List StockItem) → RowProgram}
    (goesOn : ∀ loaded held, (∀ other ∈ held,
      lockRank place other < lockRank place .despatchNumbers) →
        (next loaded).Ascends (lockRank place) held) :
    (lockItems scan call rows order next).Ascends (lockRank place) [] := by
  apply ascends_lockStockRows inOneOrder indexed
  intro found
  apply Program.ascends_lockAll
  · intro row _ other otherMem
    rcases List.mem_map.mp otherMem with ⟨locked, _, rfl⟩
    exact Prod.Lex.toLex_lt_toLex.mpr (Or.inl Nat.zero_lt_one)
  · refine (inOneOrder.reservations call _
      ((List.filter_sublist.map _).trans indexed)).imp fun {first second} before => ?_
    exact Prod.Lex.toLex_lt_toLex.mpr (Or.inr ⟨rfl, before⟩)
  · intro reservations
    apply goesOn
    intro other otherMem
    rcases List.mem_append.mp otherMem with onStock | onReservations
    · rcases List.mem_map.mp onStock with ⟨locked, _, rfl⟩
      exact Prod.Lex.toLex_lt_toLex.mpr (Or.inl Nat.zero_lt_two)
    · rcases List.mem_map.mp onReservations with ⟨locked, _, rfl⟩
      exact Prod.Lex.toLex_lt_toLex.mpr (Or.inl Nat.one_lt_two)

end Ascends

/-- Where the scans are in one order, every transaction takes its locks in ascending
order. -/
theorem ascends_rowProgram {scan : ScanOrder} {index : List StockRow}
    {place : UniqueId → Nat} (inOneOrder : scan.InOneOrder (index.map StockRow.id) place)
    {call : FulfillmentCall} {program : RowProgram}
    (isProgram : rowProgram scan index call = some program) :
    program.Ascends (lockRank place) [] := by
  have indexed : ((index.filter call.locks).map StockRow.id).Sublist
      (index.map StockRow.id) := List.filter_sublist.map _
  cases call with
  | stockReserve request =>
      cases isProgram
      exact ascends_lockItems inOneOrder indexed fun _ _ _ => trivial
  | stockRelease request stockIds =>
      cases isProgram
      exact ascends_lockItems inOneOrder indexed fun _ _ _ => trivial
  | despatchLooked request => cases isProgram
  | despatchCreate request stockIds =>
      cases isProgram
      apply ascends_lockItems inOneOrder indexed
      intro loaded held below
      split
      · exact ⟨below, fun _ => trivial⟩
      · trivial
  | stockReplenish request =>
      cases isProgram
      exact ascends_lockStockRows inOneOrder indexed fun _ => trivial

/-! ## The service -/

/-- At most this many attempts of a transaction, the first one included. -/
def maxAttempts : Nat := 3

/-- The service as its transactions take their locks, in the order of the scans. -/
def lockService (scan : ScanOrder) :
    Service Resource.Value FulfillmentDb FulfillmentResult FulfillmentSystem
      FulfillmentAction FulfillmentCall Unit where
  next := FulfillmentSystem.step
  kind
    | .receive _ => .receives
    | .locate index => .takesUp index
    | .run _ => .transacts
    | .abort index => .takesUp index
  db := FulfillmentSystem.db
  calls := FulfillmentSystem.calls
  read := FulfillmentDb.readResource
  opens := fun system call _ => rowProgram scan system.db.stock call
  conclude := fun system index call result =>
    { system.finished index with db := result.1 }.answer call.request result.2
  maxAttempts := maxAttempts

namespace FulfillmentSystem

open FulfillmentDb

/-- The ledger is sound, and the stock rows are those of the catalogue. -/
def Sound (catalogue : StockCatalogue) (system : FulfillmentSystem) : Prop :=
  system.db.Sound ∧
    system.db.stock.map StockRow.identity = catalogue.rows.map StockRow.identity

/-- A transaction that a call opened on the stock rows, as they were at some time. -/
def Opened (scan : ScanOrder) (system : FulfillmentSystem) (call : FulfillmentCall)
    (program : RowProgram) : Prop :=
  ∃ index, system.db.stock.map StockRow.identity = index.map StockRow.identity ∧
    rowProgram scan index call = some program

theorem identity_of_map {stock : List StockRow} {change : StockRow → StockRow}
    (keeps : ∀ row, (change row).identity = row.identity) :
    (stock.map change).map StockRow.identity = stock.map StockRow.identity := by
  rw [List.map_map]
  exact List.map_congr_left fun row _ => keeps row

/-- No transaction moves a stock row or gives it another key. -/
theorem identity_transaction {db db' : FulfillmentDb} {call : FulfillmentCall}
    {reply : FulfillmentReply} (keyed : db.WellKeyed)
    (result : transaction db call = some (.ok (db', reply))) :
    db'.stock.map StockRow.identity = db.stock.map StockRow.identity := by
  cases call with
  | stockReserve request =>
      cases reserve_effect keyed (Option.some.inj result) with
      | repeated existing => rfl
      | rejected payload first short ofOrder => rfl
      | reserved payload first served something ofOrder =>
          apply identity_of_map
          intro row
          split <;> rfl
  | stockRelease request stockIds =>
      cases release_effect keyed (Option.some.inj result) with
      | repeated noneConsumed nothing => rfl
      | released payload noneConsumed something ofOrder sameReason =>
          apply identity_of_map
          intro row
          split <;> rfl
  | despatchLooked request => cases result
  | despatchCreate request stockIds =>
      cases createDespatch_effect keyed (Option.some.inj result) with
      | repeated nothing consumed despatch found => rfl
      | created despatch payload noneReleased something absent ofOrder lines events
          payloadOfOrder =>
          apply identity_of_map
          intro row
          split <;> rfl
  | stockReplenish request =>
      rcases replenish_effect keyed (Option.some.inj result) with ⟨added, rfl⟩
      apply identity_of_map
      intro row
      rfl

theorem identity_step {system system' : FulfillmentSystem} {action : FulfillmentAction}
    (sound : system.db.Sound) (stepped : step system action = some system') :
    system'.db.stock.map StockRow.identity = system.db.stock.map StockRow.identity := by
  cases step_change stepped with
  | committed index call db reply found result =>
      exact identity_transaction sound.keyed result
  | received => rfl
  | nothingToRelease => rfl
  | alreadyDespatched => rfl
  | nothingToDespatch => rfl
  | located => rfl
  | refused => rfl
  | aborted => rfl

/-- What the transaction of a call comes to, and what it publishes. -/
theorem settled_of_opened {scan : ScanOrder} {system : FulfillmentSystem}
    {call : FulfillmentCall} {program : RowProgram} (sound : system.db.Sound)
    (opened : Opened scan system call program) :
    ∃ result, transaction system.db call = some result ∧
      program.run readResource system.db = commitOrRollBack system.db result := by
  rcases opened with ⟨index, sameIndex, isProgram⟩
  exact run_rowProgram sameIndex sound.keyed isProgram

/-- A transaction changes only what it holds when it commits. -/
theorem within_of_opened {scan : ScanOrder} {system : FulfillmentSystem}
    {call : FulfillmentCall} {program : RowProgram} {held : List Resource}
    {effect : FulfillmentDb → FulfillmentDb × FulfillmentResult}
    (sound : system.db.Sound) (opened : Opened scan system call program)
    (follows : Follows readResource system.db program held (.publish effect))
    (resource : Resource) (notHeld : resource ∉ held) :
    readResource (effect system.db).1 resource = readResource system.db resource := by
  rcases settled_of_opened sound opened with ⟨result, isResult, settles⟩
  have publishes : effect system.db = commitOrRollBack system.db result :=
    follows.run_eq.symm.trans settles
  rw [publishes]
  rcases opened with ⟨index, sameIndex, isProgram⟩
  cases result with
  | error error => rfl
  | ok value =>
      rcases value with ⟨db', reply⟩
      apply transaction_frame sound.keyed isResult
      intro reaches
      exact notHeld (reaches_held sameIndex sound.keyed isProgram follows resource reaches)

/-- The locks make the service serializable, in whatever order they are taken. -/
theorem serializable (scan : ScanOrder) (catalogue : StockCatalogue) :
    (lockService scan).Serializable (Sound catalogue) (Opened scan) where
  sound := by
    rintro system action system' ⟨sound, sameRows⟩ stepped
    exact ⟨sound_step sound stepped, (identity_step sound stepped).trans sameRows⟩
  stays := by
    rintro system action system' call program ⟨sound, _⟩ stepped
      ⟨index, sameIndex, isProgram⟩
    exact ⟨index, (identity_step sound stepped).trans sameIndex, isProgram⟩
  receives := by
    intro system action system' isKind stepped
    cases step_change stepped with
    | received => exact ⟨rfl, _, rfl⟩
    | nothingToRelease => exact ⟨rfl, [], (List.append_nil _).symm⟩
    | alreadyDespatched => exact ⟨rfl, [], (List.append_nil _).symm⟩
    | nothingToDespatch => cases isKind
    | located => cases isKind
    | committed => cases isKind
    | refused => cases isKind
    | aborted => cases isKind
  takesUp := by
    intro system action system' index isKind stepped
    cases step_change stepped with
    | received => cases isKind
    | nothingToRelease => cases isKind
    | alreadyDespatched => cases isKind
    | nothingToDespatch =>
        cases isKind
        exact ⟨rfl, [], (List.append_nil _).symm⟩
    | located =>
        cases isKind
        exact ⟨rfl, _, rfl⟩
    | committed => cases isKind
    | refused => cases isKind
    | aborted =>
        cases isKind
        exact ⟨rfl, [], (List.append_nil _).symm⟩
  concludes := fun _ _ _ _ => ⟨rfl, rfl⟩
  opened := fun system _ _ _ _ _ opens => ⟨system.db.stock, rfl, opens⟩
  runs := by
    rintro system index call program ⟨sound, _⟩ isCall opened
    rcases settled_of_opened sound opened with ⟨result, isResult, settles⟩
    have isFound : system.calls[index]? = some call := isCall
    refine ⟨.run index, ?_⟩
    change system.run index = some ((lockService scan).conclude system index call
      (program.run readResource system.db))
    rw [settles]
    simp only [run, isFound, isResult]
    cases result with
    | ok value => rfl
    | error error => rfl
  within := fun _ _ _ _ _ sound opened follows =>
    within_of_opened sound.1 opened follows

/-- Where the scans are in one order, so are the locks. -/
theorem locksInOrder {scan : ScanOrder} {catalogue : StockCatalogue}
    {place : UniqueId → Nat}
    (inOneOrder : scan.InOneOrder (catalogue.rows.map StockRow.id) place) :
    Service.LocksInOrder (lockRank place) (Sound catalogue) (Opened scan) := by
  rintro system call program ⟨sound, sameRows⟩ ⟨index, sameIndex, isProgram⟩
  have sameIds : index.map StockRow.id = catalogue.rows.map StockRow.id := by
    have ids := congrArg (List.map Prod.fst) (sameIndex.symm.trans sameRows)
    rw [List.map_map, List.map_map] at ids
    exact ids
  rw [← sameIds] at inOneOrder
  exact ascends_rowProgram inOneOrder isProgram

/-- The requests that were answered. -/
def answered (system : FulfillmentSystem) : List FulfillmentRequest :=
  system.answers.map FulfillmentAnswer.request

/-- The requests that were answered, and those under way. -/
def requests (system : FulfillmentSystem) : List FulfillmentRequest :=
  system.answered ++ system.calls.map FulfillmentCall.request

theorem answered_conclude (scan : ScanOrder) (system : FulfillmentSystem) (index : Nat)
    (call : FulfillmentCall) (result : FulfillmentDb × FulfillmentResult) :
    answered ((lockService scan).conclude system index call result) =
      system.answered ++ [call.request] := by
  simp [answered, lockService, answer, finished]

theorem kept_initial (scan : ScanOrder) (catalogue : StockCatalogue) :
    (lockService scan).Kept (Sound catalogue) (Opened scan)
      (Session.start (initial catalogue)) where
  sound := ⟨sound_initial catalogue, rfl⟩
  aligned := ⟨rfl, fun _ _ found => by cases found⟩
  locked := Locked.nil

/-- Whichever locks the transactions take in which order, as the database scans and
with others between them, rolled back and tried again: the service does what it does
when each runs whole. -/
theorem locked_runs_are_whole (scan : ScanOrder) (catalogue : StockCatalogue)
    {session : Session Resource.Value FulfillmentDb FulfillmentResult FulfillmentSystem}
    (reached : Reachable (lockService scan).lockStep unguarded
      (Session.start (initial catalogue)) session) :
    Reachable step unguarded (initial catalogue) session.system :=
  ((kept_initial scan catalogue).reachable (serializable scan catalogue) .refl reached).2

/-- Two orders want one stock row; the first waits for it with another row locked. -/
def rowInTurns : List (LockAction FulfillmentAction Unit) :=
  [ .outside (.receive (.stockReserve ⟨⟨1⟩, "RET-0001", "COM-0001", twoLines⟩)),
    .outside (.receive (.stockReserve
      ⟨⟨2⟩, "RET-0001", "COM-0001", [⟨"PRD-0002", 2⟩]⟩)),
    .opening 0 (),
    .opening 1 (),
    .acquire 1,
    .acquire 0,
    .acquire 1,
    .commit 1,
    .acquire 0,
    .acquire 0,
    .acquire 0,
    .commit 0 ]

/-- The order that locked the row first is answered first. -/
theorem row_in_turns_is_whole :
    ∃ session,
      Reachable (lockService .byIndex).lockStep unguarded
        (Session.start (initial twoProducts)) session ∧
      session.system.answers.map FulfillmentAnswer.request =
        [ .stockReserve ⟨⟨2⟩, "RET-0001", "COM-0001", [⟨"PRD-0002", 2⟩]⟩,
          .stockReserve ⟨⟨1⟩, "RET-0001", "COM-0001", twoLines⟩ ] ∧
      session.system.db.stock.map StockRow.reservedUnits = [3, 4] ∧
      Reachable step unguarded (initial twoProducts) session.system := by
  have runs : (execute (lockService .byIndex).lockStep
      (fun session action => decide (unguarded session action))
      (Session.start (initial twoProducts)) rowInTurns).map (fun session =>
        (session.system.answers.map FulfillmentAnswer.request,
          session.system.db.stock.map StockRow.reservedUnits)) =
      some ([ .stockReserve ⟨⟨2⟩, "RET-0001", "COM-0001", [⟨"PRD-0002", 2⟩]⟩,
        .stockReserve ⟨⟨1⟩, "RET-0001", "COM-0001", twoLines⟩ ], [3, 4]) := by
    decide +kernel
  rcases Option.map_eq_some_iff.mp runs with ⟨session, ran, shown⟩
  have reached : Reachable (lockService .byIndex).lockStep unguarded
      (Session.start (initial twoProducts)) session := reachable_of_execute ran
  exact ⟨session, reached, congrArg Prod.fst shown, congrArg Prod.snd shown,
    locked_runs_are_whole .byIndex twoProducts reached⟩

/-- By their row locks alone, no stock transactions block each other for good if the
database scans in one order: wherever some are open, taking free locks and committing is
enough to answer every one of them, and the other calls stay as they are. -/
theorem open_transactions_end {scan : ScanOrder} {catalogue : StockCatalogue}
    {place : UniqueId → Nat}
    (inOneOrder : scan.InOneOrder (catalogue.rows.map StockRow.id) place)
    {session : Session Resource.Value FulfillmentDb FulfillmentResult FulfillmentSystem}
    (reached : Reachable (lockService scan).lockStep unguarded
      (Session.start (initial catalogue)) session) :
    ∃ session', Reachable (lockService scan).lockStep (fun _ action => action.Advances)
        session session' ∧
      session'.system.calls = Service.idleCalls session.system.calls session.threads ∧
      session'.system.requests.Perm session.system.requests ∧
      ∀ slot ∈ session'.threads, slot = none := by
  have kept :=
    ((kept_initial scan catalogue).reachable (serializable scan catalogue) .refl reached).1
  rcases kept.exists_concluded (serializable scan catalogue) (locksInOrder inOneOrder) with
    ⟨session', advances, idle, closed⟩
  refine ⟨session', advances, idle, ?_, closed⟩
  exact Service.perm_of_advances (answered_conclude scan) (serializable scan catalogue)
    advances

/-- With both orders' transactions open and one of them waiting, both are answered. -/
theorem waiting_orders_end :
    ∃ session,
      Reachable (lockService .byIndex).lockStep unguarded
        (Session.start (initial twoProducts)) session ∧
      ((lockService .byIndex).lockStep session (.acquire 0)).isNone = true ∧
      ∃ session', Reachable (lockService .byIndex).lockStep
          (fun _ action => action.Advances) session session' ∧
        session'.system.calls = [] ∧
        session'.system.requests.Perm session.system.requests := by
  have runs : (execute (lockService .byIndex).lockStep
      (fun session action => decide (unguarded session action))
      (Session.start (initial twoProducts)) (rowInTurns.take 6)).map (fun session =>
        (((lockService .byIndex).lockStep session (.acquire 0)).isNone,
          Service.idleCalls session.system.calls session.threads)) =
      some (true, []) := by
    decide +kernel
  rcases Option.map_eq_some_iff.mp runs with ⟨session, ran, shown⟩
  have reached : Reachable (lockService .byIndex).lockStep unguarded
      (Session.start (initial twoProducts)) session := reachable_of_execute ran
  rcases open_transactions_end (ScanOrder.byIndex_inOneOrder twoProducts.ids) reached with
    ⟨session', advances, idle, answered, _⟩
  exact ⟨session, reached, congrArg Prod.fst shown, session', advances,
    idle.trans (congrArg Prod.snd shown), answered⟩

/-- A release scans against the index, as by the primary key, and all else by it. -/
def releaseBackwards : ScanOrder where
  stock
    | .stockRelease .., rows => rows.reverse
    | _, rows => rows
  stock_perm call rows := by
    cases call with
    | stockRelease => exact rows.reverse_perm
    | _ => exact List.Perm.refl rows
  reservations _ rows := rows
  reservations_perm _ rows := List.Perm.refl rows

/-- An order that reserves and one that releases each hold a row the other waits for. -/
def crossedRows : List (LockAction FulfillmentAction Unit) :=
  [ .outside (.receive (.stockReserve ⟨⟨1⟩, "RET-0001", "COM-0001", twoLines⟩)),
    .opening 0 (),
    .acquire 0,
    .acquire 0,
    .acquire 0,
    .acquire 0,
    .commit 0,
    .outside (.receive (.stockReserve ⟨⟨2⟩, "RET-0001", "COM-0001", twoLines⟩)),
    .outside (.receive (.stockRelease ⟨⟨1⟩, .orderCancelled⟩)),
    .opening 0 (),
    .opening 1 (),
    .acquire 0,
    .acquire 1 ]

/-- Without one order of the scans, transactions can block each other for good. -/
theorem crossed_scans_block :
    ∃ session,
      Reachable (lockService releaseBackwards).lockStep unguarded
        (Session.start (initial twoProducts)) session ∧
      session.threads.all Option.isSome = true ∧ session.threads.length = 2 ∧
      ∀ action, action.Advances →
        (lockService releaseBackwards).lockStep session action = none := by
  have runs : (execute (lockService releaseBackwards).lockStep
      (fun session action => decide (unguarded session action))
      (Session.start (initial twoProducts)) crossedRows).map (fun session =>
        (session.threads.all Option.isSome, session.threads.length,
          (List.range 2).all fun index =>
            ((lockService releaseBackwards).lockStep session (.acquire index)).isNone &&
            ((lockService releaseBackwards).lockStep session (.commit index)).isNone)) =
      some (true, 2, true) := by
    decide +kernel
  rcases Option.map_eq_some_iff.mp runs with ⟨session, ran, shown⟩
  simp only [Prod.mk.injEq] at shown
  rcases shown with ⟨allOpen, two, stuck⟩
  refine ⟨session, reachable_of_execute ran, allOpen, two, ?_⟩
  have inside : ∀ index < 2,
      (lockService releaseBackwards).lockStep session (.acquire index) = none ∧
        (lockService releaseBackwards).lockStep session (.commit index) = none := by
    intro index below
    have both := List.all_eq_true.mp stuck index (List.mem_range.mpr below)
    simpa using both
  intro action advances
  cases action with
  | outside | opening | rollBack => cases advances
  | acquire index =>
      by_cases below : index < 2
      · exact (inside index below).1
      · have absent : session.threads[index]? = none :=
          List.getElem?_eq_none (by omega)
        simp [Service.lockStep, acquire, absent]
  | commit index =>
      by_cases below : index < 2
      · exact (inside index below).2
      · have absent : session.threads[index]? = none :=
          List.getElem?_eq_none (by omega)
        simp [Service.lockStep, Service.commit, effectOf, absent]

end FulfillmentSystem

end OrderToCash.Fulfillment
