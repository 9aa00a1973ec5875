import OrderToCash.Orders.RequestReplay

/-!
# One order for one request

The invariant of the calls of one request is kept by every action taken while
the stock check answers them available, so each of them ends in the reply of
the one order that was committed.
-/

namespace OrderToCash.Orders

open OrderToCash.Checked
open OrderToCash.Contracts
open OrderToCash.Kernel
open OrderToCash.Transition

variable {reference : ReferenceData} {commands : Nat → PlaceOrderCommand}
  {requestId : RequestId}

namespace PlacementSystem

/-- Every stock check of a call of the request answers that the stock is
available, and nothing else the calls depend on fails: no database error but a
lock error with an attempt left, a reference within its six digits, a fresh
order identifier. -/
def Served (commands : Nat → PlaceOrderCommand) (requestId : RequestId) :
    Guard PlacementSystem PlacementAction := fun system action =>
  match action with
  | .checkStock call answer =>
      (commands call).requestId = some requestId →
        ∃ lines, answer = .reply true lines
  | .allocate call =>
      (commands call).requestId = some requestId →
        0 < system.db.nextSequence ∧ system.db.nextSequence ≤ 999999
  | .insert call orderId _ =>
      (commands call).requestId = some requestId →
        ∀ row ∈ system.db.orders, row.orderId ≠ orderId
  | .lockError call =>
      (commands call).requestId = some requestId →
        ∀ attempt ∈ (system.phases call).attempt?, attempt < maxAttempts
  | .fail call => (commands call).requestId ≠ some requestId
  | _ => True

instance (answer : StockAnswer) : Decidable (∃ lines, answer = .reply true lines) :=
  match answer with
  | .reply true lines => isTrue ⟨lines, rfl⟩
  | .reply false _ => isFalse (by rintro ⟨_, ⟨⟩⟩)
  | .timeout => isFalse (by rintro ⟨_, ⟨⟩⟩)
  | .transportFailure => isFalse (by rintro ⟨_, ⟨⟩⟩)

instance (commands : Nat → PlaceOrderCommand) (requestId : RequestId)
    (system : PlacementSystem) :
    ∀ action, Decidable (Served commands requestId system action)
  | .checkStock call answer =>
      inferInstanceAs (Decidable ((commands call).requestId = some requestId →
        ∃ lines, answer = .reply true lines))
  | .allocate call =>
      inferInstanceAs (Decidable ((commands call).requestId = some requestId →
        0 < system.db.nextSequence ∧ system.db.nextSequence ≤ 999999))
  | .insert call orderId _ =>
      inferInstanceAs (Decidable ((commands call).requestId = some requestId →
        ∀ row ∈ system.db.orders, row.orderId ≠ orderId))
  | .lockError call =>
      inferInstanceAs (Decidable ((commands call).requestId = some requestId →
        ∀ attempt ∈ (system.phases call).attempt?, attempt < maxAttempts))
  | .fail call =>
      inferInstanceAs (Decidable ((commands call).requestId ≠ some requestId))
  | .lookUp _ => isTrue trivial
  | .openTransaction _ => isTrue trivial
  | .commit _ => isTrue trivial
  | .advance _ _ => isTrue trivial

/-- Once an order with the `requestId` is committed it is the only one, it was
announced once, and every call of the request ends in its reply. -/
def AnsweredAlike (commands : Nat → PlaceOrderCommand) (requestId : RequestId)
    (system : PlacementSystem) : Prop :=
  system.db.Claimed requestId →
    ∃ row fact, system.db.rowsFor requestId = [row] ∧
      system.db.placedFacts row.props.orderReference = [fact] ∧
      ∀ call, (commands call).requestId = some requestId →
        (∀ result, system.phases call = .returned result →
          result = row.result) ∧
        ∀ error, system.phases call ≠ .failed error

end PlacementSystem

namespace Replaying

variable {system system' : PlacementSystem}

theorem findByRequestId_eq
    (replaying : Replaying reference commands requestId system) :
    (¬ system.db.Claimed requestId ∧
        system.db.findByRequestId requestId = .ok none) ∨
      ∃ row ∈ system.db.rowsFor requestId,
        system.db.findByRequestId requestId = .ok (some row.result) := by
  unfold PlacementDb.findByRequestId
  cases selected : system.db.orders.find? fun row =>
      row.requestId = some requestId with
  | none =>
      apply Or.inl
      constructor
      · rintro ⟨row, stored, carries⟩
        exact absurd (decide_eq_true carries)
          (List.find?_eq_none.mp selected row stored)
      · rfl
  | some row =>
      apply Or.inr
      have carries := List.find?_some selected
      have member : row ∈ system.db.rowsFor requestId :=
        List.mem_filter.mpr ⟨List.mem_of_find?_eq_some selected, carries⟩
      have rebuilt := (replaying.stored row member).reconstitute
      exact ⟨row, member, by simp only [rebuilt]; rfl⟩

/-- What a call in each phase says only looks at the orders of the request. -/
theorem agrees_congr {command : PlaceOrderCommand} {db db' : PlacementDb}
    (rows : db'.rowsFor requestId = db.rowsFor requestId) {phase : CallPhase}
    (agrees : phase.Agrees reference requestId command db) :
    phase.Agrees reference requestId command db' := by
  cases phase with
  | inserted attempt number row facts =>
      constructor
      · exact agrees.1
      · rw [PlacementDb.claimed_iff, rows, ← PlacementDb.claimed_iff]
        exact agrees.2
  | lost attempt number winner =>
      simpa only [CallPhase.Agrees, rows] using agrees
  | returned result => simpa only [CallPhase.Agrees, rows] using agrees
  | arrived => trivial
  | resolved => exact agrees
  | checked attempt => exact agrees
  | opened attempt startAt => exact agrees
  | allocated attempt number => exact agrees
  | failed error => exact agrees

/-- A call takes a phase of its own on the same database. -/
theorem change (replaying : Replaying reference commands requestId system)
    (serialised : system'.Serialised) (db : system'.db = system.db)
    {call : Nat} {phase : CallPhase}
    (phases : system'.phases = Function.update system.phases call phase)
    (written : ∀ attempt number row facts,
      phase = .inserted attempt number row facts →
        Written (commands call) number row facts)
    (agrees : (commands call).requestId = some requestId →
      phase.Agrees reference requestId (commands call) system.db) :
    Replaying reference commands requestId system' := by
  constructor
  · exact serialised
  · rw [db]
    exact replaying.issued
  · intro other attempt number row facts inserted
    rw [phases] at inserted
    by_cases same : other = call
    · subst same
      rw [Function.update_self] at inserted
      exact written attempt number row facts inserted
    · rw [Function.update_of_ne same] at inserted
      exact replaying.written other attempt number row facts inserted
  · intro other carries
    rw [phases, db]
    by_cases same : other = call
    · subst same
      rw [Function.update_self]
      exact agrees carries
    · rw [Function.update_of_ne same]
      exact replaying.agrees other carries
  · rw [db]
    exact replaying.stored
  · rw [db]
    exact replaying.single
  · rw [db]
    exact replaying.accepted

/-- A call takes a phase that holds no uncommitted order. -/
theorem quiet (replaying : Replaying reference commands requestId system)
    (serialised : system'.Serialised) (db : system'.db = system.db)
    {call : Nat} {phase : CallPhase}
    (phases : system'.phases = Function.update system.phases call phase)
    (unnumbered : ∀ attempt number row facts,
      phase ≠ .inserted attempt number row facts)
    (agrees : (commands call).requestId = some requestId →
      phase.Agrees reference requestId (commands call) system.db) :
    Replaying reference commands requestId system' := by
  apply replaying.change serialised db phases _ agrees
  intro attempt number row facts inserted
  exact absurd inserted (unnumbered attempt number row facts)

/-! ## Before and inside the transaction -/

theorem agrees_lookUp
    (replaying : Replaying reference commands requestId system) {call : Nat}
    (carries : (commands call).requestId = some requestId) :
    (PlacementSystem.lookUpPhase reference system.db (commands call)).Agrees
      reference requestId (commands call) system.db := by
  unfold PlacementSystem.lookUpPhase
  split
  · exact .discount ‹_›
  · rename_i noDiscount
    rw [carries, Option.map_some, Option.getD_some]
    rcases replaying.findByRequestId_eq with ⟨_, found⟩ | ⟨row, member, found⟩
    · rw [found]
      cases checked : assertReferenceDataComplete reference (commands call) with
      | error error => exact .referenceData error checked
      | ok _ => exact ⟨not_not.mp noDiscount, checked⟩
    · rw [found]
      exact ⟨row, member, rfl⟩

/-- A call in a transaction has passed the checks in front of it. -/
theorem accepted_of_attempt
    (replaying : Replaying reference commands requestId system)
    {call attempt : Nat}
    (carries : (commands call).requestId = some requestId)
    (inTransaction : (system.phases call).attempt? = some attempt) :
    Accepted reference (commands call) := by
  have agrees := replaying.agrees call carries
  cases phase : system.phases call with
  | opened attempt startAt =>
      rw [phase] at agrees
      exact agrees
  | allocated attempt number =>
      rw [phase] at agrees
      exact agrees
  | inserted attempt number row facts =>
      rw [phase] at agrees
      exact accepted_of_not_refused agrees.1
  | lost attempt number winner =>
      rw [phase] at agrees
      rcases agrees with ⟨row, member, _⟩
      have claimed : system.db.Claimed requestId :=
        (system.db.claimed_iff requestId).mpr (List.ne_nil_of_mem member)
      exact accepted_of_not_refused (replaying.accepted claimed call carries)
  | arrived =>
      rw [phase] at inTransaction
      cases inTransaction
  | resolved =>
      rw [phase] at inTransaction
      cases inTransaction
  | checked attempt =>
      rw [phase] at inTransaction
      cases inTransaction
  | returned result =>
      rw [phase] at inTransaction
      cases inTransaction
  | failed error =>
      rw [phase] at inTransaction
      cases inTransaction

theorem insert (replaying : Replaying reference commands requestId system)
    {call attempt number : Nat} {orderId : UniqueId} {firstLineId : Nat}
    (allocated : system.phases call = .allocated attempt number)
    (fresh : (commands call).requestId = some requestId →
      ∀ row ∈ system.db.orders, row.orderId ≠ orderId) :
    Replaying reference commands requestId
      (PlacementSystem.insert reference commands system call attempt number
        orderId firstLineId) := by
  have serialised := @PlacementSystem.Serialised.insert reference commands
    system replaying.serialised call attempt number allocated orderId firstLineId
  have issuedNext : number = system.db.nextSequence := by
    apply replaying.serialised.number call number
    rw [allocated]
    rfl
  revert serialised
  simp only [PlacementSystem.insert]
  split
  · rename_i error refused
    intro serialised
    apply replaying.quiet serialised rfl rfl (fun _ _ _ _ => CallPhase.noConfusion)
    intro _
    exact .order _ _ _ refused
  · rename_i order created
    have row := createOrder_eq_ok created orderId (commands call).requestId
    split
    · rename_i otherKey
      intro serialised
      apply replaying.quiet serialised rfl rfl
        (fun _ _ _ _ => CallPhase.noConfusion)
      intro carries
      rcases otherKey with ⟨other, stored, sameId | sameSequence⟩
      · exact absurd sameId (fresh carries other stored)
      · have before := replaying.issued.rows other stored
        have numbered : order.props.orderReference.sequence = number :=
          congrArg OrderNumber.sequence row.2.1
        simp only [OrderRow.sequence] at sameSequence before
        omega
    · split
      · rename_i error found
        intro serialised
        apply replaying.quiet serialised rfl rfl
          (fun _ _ _ _ => CallPhase.noConfusion)
        intro carries
        rw [carries, Option.map_some, Option.getD_some] at found
        rcases replaying.findByRequestId_eq with ⟨_, none⟩ | ⟨_, _, some⟩
        · rw [found] at none
          cases none
        · rw [found] at some
          cases some
      · rename_i winner found
        intro serialised
        apply replaying.quiet serialised rfl rfl
          (fun _ _ _ _ => CallPhase.noConfusion)
        intro carries
        rw [carries, Option.map_some, Option.getD_some] at found
        rcases replaying.findByRequestId_eq with ⟨_, none⟩ | ⟨other, member, some⟩
        · rw [found] at none
          cases none
        · rw [found] at some
          cases some
          exact ⟨other, member, rfl⟩
      · rename_i found
        intro serialised
        apply replaying.change serialised rfl rfl
        · intro _ _ _ _ inserted
          cases inserted
          exact ⟨rfl, congrArg OrderNumber.sequence row.2.1, row.2.2, row.1⟩
        · intro carries
          have accepted : Accepted reference (commands call) := by
            have agrees := replaying.agrees call carries
            rw [allocated] at agrees
            exact agrees
          rw [carries, Option.map_some, Option.getD_some] at found
          constructor
          · exact accepted.not_refused created
          · rcases replaying.findByRequestId_eq with ⟨unclaimed, _⟩ | ⟨_, _, some⟩
            · exact unclaimed
            · rw [found] at some
              cases some

/-! ## Commits and the order's own saga -/

/-- Two calls cannot both hold a number. -/
theorem number_unique
    (replaying : Replaying reference commands requestId system)
    {call other number otherNumber : Nat}
    (numbered : (system.phases call).number? = some number)
    (otherNumbered : (system.phases other).number? = some otherNumber) :
    call = other := by
  have first := replaying.serialised.holder call number numbered
  have second := replaying.serialised.holder other otherNumber otherNumbered
  rw [first] at second
  exact Option.some.inj second

/-- Calls that hold nothing keep agreeing when orders are added. -/
theorem agrees_mono {command : PlaceOrderCommand} {db db' : PlacementDb}
    (rows : ∀ row ∈ db.rowsFor requestId, ∃ row' ∈ db'.rowsFor requestId,
      row'.result = row.result)
    {phase : CallPhase}
    (notInserted : ∀ attempt number row facts,
      phase ≠ .inserted attempt number row facts)
    (agrees : phase.Agrees reference requestId command db) :
    phase.Agrees reference requestId command db' := by
  cases phase with
  | inserted attempt number row facts =>
      exact absurd rfl (notInserted attempt number row facts)
  | lost attempt number winner =>
      rcases agrees with ⟨row, member, same⟩
      rcases rows row member with ⟨row', member', sameResult⟩
      exact ⟨row', member', sameResult.trans same⟩
  | returned result =>
      rcases agrees with ⟨row, member, same⟩
      rcases rows row member with ⟨row', member', sameResult⟩
      exact ⟨row', member', sameResult.trans same⟩
  | arrived => trivial
  | resolved => exact agrees
  | checked attempt => exact agrees
  | opened attempt startAt => exact agrees
  | allocated attempt number => exact agrees
  | failed error => exact agrees

theorem rowsFor_append (db : PlacementDb) (row : OrderRow)
    (sequence : Option Nat) (outbox : List Fact) :
    PlacementDb.rowsFor ⟨db.orders ++ [row], sequence, outbox⟩ requestId =
      db.rowsFor requestId ++
        if row.requestId = some requestId then [row] else [] := by
  simp only [PlacementDb.rowsFor, List.filter_append, List.filter_cons,
    List.filter_nil, decide_eq_true_eq]

theorem placedFacts_append (db : PlacementDb) (props : OrderProps)
    (orders : List OrderRow) (sequence : Option Nat) (order : OrderNumber) :
    PlacementDb.placedFacts
        ⟨orders, sequence, db.outbox ++ [orderPlacedEvent props]⟩ order =
      db.placedFacts order ++
        if props.orderReference = order then [orderPlacedEvent props] else [] := by
  simp only [PlacementDb.placedFacts, List.filter_append, List.filter_cons,
    List.filter_nil, decide_eq_true_eq, orderPlacedEvent, placedReference?,
    Option.some.injEq]

/-- The rows of the request after a call has committed its order. -/
theorem rowsFor_commit
    (replaying : Replaying reference commands requestId system)
    {call attempt number : Nat} {row : OrderRow} {facts : List Fact}
    (inserted : system.phases call = .inserted attempt number row facts)
    (sequence : Option Nat) (outbox : List Fact) :
    ((commands call).requestId = some requestId ∧
        system.db.rowsFor requestId = [] ∧
        ¬ Refused reference (commands call) ∧
        PlacementDb.rowsFor ⟨system.db.orders ++ [row], sequence, outbox⟩
          requestId = [row]) ∨
      ((commands call).requestId ≠ some requestId ∧
        PlacementDb.rowsFor ⟨system.db.orders ++ [row], sequence, outbox⟩
          requestId = system.db.rowsFor requestId) := by
  have written := replaying.written call attempt number row facts inserted
  rw [rowsFor_append, written.requestId]
  by_cases carries : (commands call).requestId = some requestId
  · apply Or.inl
    have agrees := replaying.agrees call carries
    rw [inserted] at agrees
    have noRows : system.db.rowsFor requestId = [] := by
      by_contra rows
      exact agrees.2 ((system.db.claimed_iff requestId).mpr rows)
    rw [if_pos carries, noRows]
    exact ⟨carries, rfl, agrees.1, rfl⟩
  · apply Or.inr
    rw [if_neg carries, List.append_nil]
    exact ⟨carries, rfl⟩

theorem commitOrder
    (replaying : Replaying reference commands requestId system)
    (sameBody : ∀ call other, (commands call).requestId = some requestId →
      (commands other).requestId = some requestId →
      commands call = commands other)
    {call attempt number : Nat} {row : OrderRow} {facts : List Fact}
    (inserted : system.phases call = .inserted attempt number row facts) :
    Replaying reference commands requestId
      (system.commitWith call
        ⟨system.db.orders ++ [row], some (number + 1), system.db.outbox ++ facts⟩
        row.result) := by
  have numbered : (system.phases call).number? = some number := by
    rw [inserted]
    rfl
  have issuedNext := replaying.serialised.number call number numbered
  have written := replaying.written call attempt number row facts inserted
  have rows := replaying.rowsFor_commit inserted (some (number + 1))
    (system.db.outbox ++ facts)
  rcases written with ⟨ofCall, sequence, rfl, stored⟩
  have next : row.sequence = system.db.nextSequence := sequence.trans issuedNext
  constructor
  · exact replaying.serialised.commitWith numbered rfl row.result
  · rw [← sequence]
    exact replaying.issued.append next
  · intro other attempt' number' row' facts' otherInserted
    by_cases same : other = call
    · subst same
      simp only [PlacementSystem.commitWith, Function.update_self] at otherInserted
      cases otherInserted
    · simp only [PlacementSystem.commitWith, Function.update_of_ne same]
        at otherInserted
      exact replaying.written other attempt' number' row' facts' otherInserted
  · intro other carriesOther
    by_cases same : other = call
    · subst same
      simp only [PlacementSystem.commitWith, Function.update_self]
      rcases rows with ⟨_, _, _, only⟩ | ⟨others, _⟩
      · exact ⟨row, by rw [only]; exact List.mem_singleton_self row, rfl⟩
      · exact absurd carriesOther others
    · simp only [PlacementSystem.commitWith, Function.update_of_ne same]
      apply agrees_mono _ _ (replaying.agrees other carriesOther)
      · intro before member
        rcases rows with ⟨_, none, _⟩ | ⟨_, kept⟩
        · rw [none] at member
          cases member
        · exact ⟨before, by rw [kept]; exact member, rfl⟩
      · intro attempt' number' row' facts' otherInserted
        have otherNumbered : (system.phases other).number? = some number' := by
          rw [otherInserted]
          rfl
        exact same (replaying.number_unique otherNumbered numbered)
  · intro before member
    rcases rows with ⟨_, _, _, only⟩ | ⟨_, kept⟩
    · rw [PlacementSystem.commitWith_db, only] at member
      rw [List.mem_singleton.mp member]
      exact stored
    · rw [PlacementSystem.commitWith_db, kept] at member
      exact replaying.stored before member
  · intro before member
    rw [PlacementSystem.commitWith_db] at member ⊢
    rw [placedFacts_append]
    rcases rows with ⟨_, _, _, only⟩ | ⟨_, kept⟩
    · rw [only] at member ⊢
      rw [List.mem_singleton.mp member, if_pos rfl,
        replaying.issued.placedFacts_eq_nil next]
      exact ⟨rfl, _, rfl⟩
    · rw [kept] at member ⊢
      have earlier := replaying.issued.rows before (List.mem_of_mem_filter member)
      have different : row.props.orderReference ≠ before.props.orderReference := by
        intro same
        have sequences := congrArg OrderNumber.sequence same
        simp only [OrderRow.sequence] at next earlier
        omega
      rw [if_neg different, List.append_nil]
      exact replaying.single before member
  · intro claimed other carriesOther
    rw [PlacementSystem.commitWith_db, PlacementDb.claimed_iff] at claimed
    rcases rows with ⟨carries, _, passes, _⟩ | ⟨_, kept⟩
    · rw [sameBody other call carriesOther carries]
      exact passes
    · rw [kept, ← PlacementDb.claimed_iff] at claimed
      exact replaying.accepted claimed other carriesOther

theorem commitReply
    (replaying : Replaying reference commands requestId system)
    {call attempt number : Nat} {winner : PlaceOrderResult}
    (lost : system.phases call = .lost attempt number winner) :
    Replaying reference commands requestId
      (system.commitWith call { system.db with sequence := some (number + 1) }
        winner) := by
  have numbered : (system.phases call).number? = some number := by
    rw [lost]
    rfl
  have issuedNext := replaying.serialised.number call number numbered
  constructor
  · exact replaying.serialised.commitWith numbered rfl winner
  · exact replaying.issued.burn issuedNext
  · intro other attempt' number' row facts inserted
    by_cases same : other = call
    · subst same
      simp only [PlacementSystem.commitWith, Function.update_self] at inserted
      cases inserted
    · simp only [PlacementSystem.commitWith, Function.update_of_ne same]
        at inserted
      exact replaying.written other attempt' number' row facts inserted
  · intro other carries
    have agrees := replaying.agrees other carries
    by_cases same : other = call
    · subst same
      simp only [PlacementSystem.commitWith, Function.update_self]
      rw [lost] at agrees
      exact agrees
    · simp only [PlacementSystem.commitWith, Function.update_of_ne same]
      exact agrees_congr rfl agrees
  · exact replaying.stored
  · exact replaying.single
  · exact replaying.accepted

theorem rowsFor_writeBack (db : PlacementDb) (order : OrderNumber)
    (saved : Order) :
    (db.writeBack order saved).rowsFor requestId =
      (db.rowsFor requestId).map fun row =>
        if row.props.orderReference = order then
          { row with props := OrdersDb.updateOrderRow row.props saved.props }
        else
          row := by
  simp only [PlacementDb.rowsFor, PlacementDb.writeBack, List.filter_map]
  congr 1
  apply List.filter_congr
  intro row _
  simp only [Function.comp_apply]
  split <;> rfl

theorem placedFacts_writeBack (db : PlacementDb) (order other : OrderNumber)
    {saved : Order}
    (unplaced : ∀ fact ∈ saved.domainEvents, placedReference? fact = none) :
    (db.writeBack order saved).placedFacts other = db.placedFacts other := by
  have noneNew : saved.domainEvents.filter
      (fun fact => placedReference? fact = some other) = [] := by
    rw [List.filter_eq_nil_iff]
    intro fact member
    rw [unplaced fact member]
    simp
  simp only [PlacementDb.placedFacts, PlacementDb.writeBack,
    List.filter_append, noneNew, List.append_nil]

/-- An order's own saga leaves its reply and its announcement as they were. -/
theorem advance (replaying : Replaying reference commands requestId system)
    {operation : OrderOperation} {changed : OrderRow} {loaded saved : Order}
    (keepsLines : operation.KeepsLines = true)
    (storedRow : changed ∈ system.db.orders)
    (rebuilt : Order.reconstitute changed.props = .ok loaded)
    (performed : loaded.perform operation = .ok saved) :
    Replaying reference commands requestId
      { system with
        db := system.db.writeBack changed.props.orderReference saved } := by
  have unplaced : ∀ fact ∈ saved.domainEvents, placedReference? fact = none := by
    rcases Order.reconstitute_eq_ok rebuilt with ⟨totals, _, rfl⟩
    rcases (perform_keepsLines keepsLines performed).2 with
      ⟨facts, events, unplaced⟩
    rw [events]
    exact unplaced
  have written : ∀ row ∈ system.db.rowsFor requestId,
      row.props.orderReference = changed.props.orderReference →
      OrdersDb.updateOrderRow row.props saved.props = saved.props ∧
        OrderRow.Stored { row with props := saved.props } ∧
        OrderRow.result { row with props := saved.props } = row.result ∧
        saved.props.orderReference = row.props.orderReference := by
    intro row member same
    have stored := replaying.stored row member
    have sameRow : row = changed := by
      apply List.inj_on_of_nodup_map replaying.issued.distinct
        (List.mem_of_mem_filter member) storedRow
      exact congrArg OrderNumber.sequence same
    subst sameRow
    rw [stored.reconstitute] at rebuilt
    cases rebuilt
    exact stored.written keepsLines performed
  have kept : ∀ row' ∈
      (system.db.writeBack changed.props.orderReference saved).rowsFor requestId,
      ∃ row ∈ system.db.rowsFor requestId, row'.Stored ∧
        row'.result = row.result ∧
        row'.props.orderReference = row.props.orderReference := by
    intro row' member'
    rw [rowsFor_writeBack] at member'
    rcases List.mem_map.mp member' with ⟨row, member, rfl⟩
    by_cases same : row.props.orderReference = changed.props.orderReference
    · rcases written row member same with ⟨props, stored, result, sameReference⟩
      rw [if_pos same, props]
      exact ⟨row, member, stored, result, sameReference⟩
    · rw [if_neg same]
      exact ⟨row, member, replaying.stored row member, rfl, rfl⟩
  have found : ∀ row ∈ system.db.rowsFor requestId, ∃ row' ∈
      (system.db.writeBack changed.props.orderReference saved).rowsFor requestId,
      row'.result = row.result := by
    intro row member
    rw [rowsFor_writeBack]
    refine ⟨_, List.mem_map_of_mem member, ?_⟩
    by_cases same : row.props.orderReference = changed.props.orderReference
    · rcases written row member same with ⟨props, _, result, _⟩
      simp only [if_pos same, props]
      exact result
    · simp only [if_neg same]
  have claimed : (system.db.writeBack changed.props.orderReference saved).Claimed
      requestId ↔ system.db.Claimed requestId := by
    rw [PlacementDb.claimed_iff, PlacementDb.claimed_iff, rowsFor_writeBack,
      ne_eq, List.map_eq_nil_iff]
  constructor
  · exact replaying.serialised.writeBack _ saved
  · exact replaying.issued.writeBack _ unplaced
  · exact replaying.written
  · intro call carries
    have agrees := replaying.agrees call carries
    cases phase : system.phases call with
    | inserted attempt number row facts =>
        rw [phase] at agrees
        exact ⟨agrees.1, fun now => agrees.2 (claimed.mp now)⟩
    | _ =>
        rw [phase] at agrees
        exact agrees_mono found (by rintro _ _ _ _ ⟨⟩) agrees
  · intro row' member'
    rcases kept row' member' with ⟨row, _, stored, _⟩
    exact stored
  · intro row' member'
    rcases kept row' member' with ⟨row, member, _, _, sameReference⟩
    rcases replaying.single row member with ⟨only, fact, placed⟩
    constructor
    · have one : ((system.db.writeBack changed.props.orderReference
          saved).rowsFor requestId).length = 1 := by
        rw [rowsFor_writeBack, List.length_map, only]
        rfl
      rcases List.length_eq_one_iff.mp one with ⟨single, equal⟩
      rw [equal, List.mem_singleton] at member'
      rw [equal, member']
    · exact ⟨fact, by
        rw [placedFacts_writeBack _ _ _ unplaced, sameReference]
        exact placed⟩
  · intro now
    exact replaying.accepted (claimed.mp now)

/-- Every action taken while the calls of the request are served keeps them
answered alike. -/
theorem step (replaying : Replaying reference commands requestId system)
    (sameBody : ∀ call other, (commands call).requestId = some requestId →
      (commands other).requestId = some requestId →
      commands call = commands other)
    {action : PlacementAction}
    (served : PlacementSystem.Served commands requestId system action)
    (moved : PlacementSystem.Moves reference commands system action system') :
    Replaying reference commands requestId system' := by
  have serialised := replaying.serialised.step moved
  cases moved with
  | lookUp call arrived =>
      apply replaying.quiet serialised rfl rfl _ replaying.agrees_lookUp
      intro attempt number row facts inserted
      have numbered := @PlacementSystem.lookUpPhase_number? reference system.db
        (commands call)
      rw [inserted] at numbered
      cases numbered
  | checkStock call answer resolved =>
      apply replaying.quiet serialised rfl rfl
      · intro attempt number row facts inserted
        have numbered := PlacementSystem.checkStockPhase_number? answer
        rw [inserted] at numbered
        cases numbered
      · intro carries
        rcases served carries with ⟨lines, rfl⟩
        have agrees := replaying.agrees call carries
        rw [resolved] at agrees
        exact agrees
  | openTransaction call attempt checked =>
      apply replaying.quiet serialised rfl rfl
        (fun _ _ _ _ => CallPhase.noConfusion)
      intro carries
      have agrees := replaying.agrees call carries
      rw [checked] at agrees
      exact agrees
  | allocate call attempt startAt opened free =>
      have seeded : system.db.sequence.getD startAt = system.db.nextSequence := by
        cases stored : system.db.sequence with
        | none =>
            simp only [PlacementDb.nextSequence, stored, Option.getD_none]
            exact replaying.serialised.seed call attempt startAt opened stored
        | some next => simp [PlacementDb.nextSequence, stored]
      revert serialised
      simp only [PlacementSystem.allocate, seeded]
      split
      · intro serialised
        apply replaying.quiet serialised rfl rfl
          (fun _ _ _ _ => CallPhase.noConfusion)
        intro carries
        have agrees := replaying.agrees call carries
        rw [opened] at agrees
        exact agrees
      · rename_i exhausted
        intro serialised
        apply replaying.quiet serialised rfl rfl
          (fun _ _ _ _ => CallPhase.noConfusion)
        intro carries
        exact absurd (served carries) exhausted
  | insert call attempt number orderId firstLineId allocated =>
      exact replaying.insert allocated served
  | commitOrder call attempt number row facts inserted =>
      exact replaying.commitOrder sameBody inserted
  | commitReply call attempt number winner lost =>
      exact replaying.commitReply lost
  | lockError call attempt inTransaction =>
      revert serialised
      simp only [PlacementSystem.lockError]
      split
      · intro serialised
        apply replaying.quiet serialised rfl rfl
          (fun _ _ _ _ => CallPhase.noConfusion)
        intro carries
        exact replaying.accepted_of_attempt carries inTransaction
      · rename_i last
        intro serialised
        apply replaying.quiet serialised rfl rfl
          (fun _ _ _ _ => CallPhase.noConfusion)
        intro carries
        exact absurd (served carries attempt inTransaction) last
  | fail call running =>
      apply replaying.quiet serialised rfl rfl
        (fun _ _ _ _ => CallPhase.noConfusion)
      intro carries
      exact absurd carries served
  | advance operation row loaded saved keepsLines stored rebuilt performed =>
      exact replaying.advance keepsLines stored rebuilt performed

end Replaying

namespace PlacementSystem

theorem replaying_initial {db : PlacementDb} (issued : db.Issued)
    (unclaimed : ¬ db.Claimed requestId) :
    Replaying reference commands requestId (initial db) := by
  have noRows : db.rowsFor requestId = [] := by
    by_contra rows
    exact unclaimed ((db.claimed_iff requestId).mpr rows)
  constructor
  · exact serialised_initial db
  · exact issued
  · intro call attempt number row facts inserted
    cases inserted
  · intro call carries
    trivial
  · intro row member
    change row ∈ db.rowsFor requestId at member
    rw [noRows] at member
    cases member
  · intro row member
    change row ∈ db.rowsFor requestId at member
    rw [noRows] at member
    cases member
  · intro claimed
    exact absurd claimed unclaimed

theorem answeredAlike_of_replaying {system : PlacementSystem}
    (replaying : Replaying reference commands requestId system) :
    AnsweredAlike commands requestId system := by
  intro claimed
  have rows := (system.db.claimed_iff requestId).mp claimed
  rcases List.exists_mem_of_ne_nil _ rows with ⟨row, member⟩
  rcases replaying.single row member with ⟨only, fact, placed⟩
  refine ⟨row, fact, only, placed, ?_⟩
  intro call carries
  have agrees := replaying.agrees call carries
  constructor
  · intro result returned
    rw [returned] at agrees
    rcases agrees with ⟨other, otherMember, same⟩
    rw [only, List.mem_singleton] at otherMember
    rw [← same, otherMember]
  · intro error failed
    rw [failed] at agrees
    exact replaying.accepted claimed call carries agrees

/-- `orders.create` answers every call of one request alike in every run that
serves them: one order, one announcement, one reply and no error. -/
theorem requests_answeredAlike {db : PlacementDb} (issued : db.Issued)
    (unclaimed : ¬ db.Claimed requestId)
    (sameBody : ∀ call other, (commands call).requestId = some requestId →
      (commands other).requestId = some requestId →
      commands call = commands other)
    {system : PlacementSystem}
    (path : Reachable (step reference commands) (Served commands requestId)
      (initial db) system) :
    AnsweredAlike commands requestId system := by
  have replaying : Replaying reference commands requestId system := by
    apply Reachable.invariant (replaying_initial issued unclaimed) _ path
    intro before action after replaying served taken
    exact replaying.step sameBody served (moves_of_step taken)
  exact answeredAlike_of_replaying replaying

/-! ## A replay refused by the stock check -/

/-- The second call passes the lookup before the first commits, and its stock
check runs after the first order has reserved the stock. -/
def overtaken : List PlacementAction :=
  [.lookUp 1] ++ accepting 0 ++ placing 0 ++
    [.advance ⟨1⟩ .markStockReserved,
      .checkStock 1 (.reply false [⟨"SKU-1", 2, 0, false⟩])]

/-- The order is committed, and the replay ends in an error. -/
theorem requests_answeredAlike_not_always :
    ∃ system, Reachable (step oneProduct repeatedRequest) unguarded
        (initial .empty) system ∧
      ¬ AnsweredAlike repeatedRequest ⟨7⟩ system := by
  have executed : (execute (step oneProduct repeatedRequest)
      (fun state action => decide (unguarded state action)) (initial .empty)
      overtaken).map
        (fun system => (decide (system.db.Claimed ⟨7⟩), system.phases 1)) =
      some (true, .failed (.stockUnavailable [⟨"SKU-1", 2, 0, false⟩])) := by
    decide +kernel
  rcases Option.map_eq_some_iff.mp executed with ⟨system, reached, outcome⟩
  rcases Prod.mk.inj outcome with ⟨claimed, failed⟩
  refine ⟨system, reachable_of_execute reached, ?_⟩
  intro answered
  rcases answered (of_decide_eq_true claimed) with ⟨_, _, _, _, alike⟩
  exact (alike 1 rfl).2 _ failed

theorem empty_issued : PlacementDb.empty.Issued where
  distinct := List.nodup_nil
  rows := by simp [PlacementDb.empty]
  facts := by simp [PlacementDb.empty]

/-- Two racing calls and the order's own saga: the loser of the insert, too,
ends in the reply of the one order. -/
theorem requests_answeredAlike_of_race :
    ∃ system, Reachable (step oneProduct repeatedRequest)
        (Served repeatedRequest ⟨7⟩) (initial .empty) system ∧
      system.phases 0 = system.phases 1 ∧
      AnsweredAlike repeatedRequest ⟨7⟩ system := by
  have executed : (execute (step oneProduct repeatedRequest)
      (fun state action => decide (Served repeatedRequest ⟨7⟩ state action))
      (initial .empty)
      (accepting 0 ++ accepting 1 ++ placing 0 ++
        [.advance ⟨1⟩ .markStockReserved] ++ placing 1)).map
        (fun system => decide (system.phases 0 = system.phases 1)) =
      some true := by decide +kernel
  rcases Option.map_eq_some_iff.mp executed with ⟨system, reached, same⟩
  have path := reachable_of_execute reached
  have sameBody : ∀ call other,
      (repeatedRequest call).requestId = some ⟨7⟩ →
      (repeatedRequest other).requestId = some ⟨7⟩ →
      repeatedRequest call = repeatedRequest other := by
    intro call other carries otherCarries
    simp only [repeatedRequest] at carries otherCarries ⊢
    rw [carries, otherCarries]
  have unclaimed : ¬ PlacementDb.empty.Claimed ⟨7⟩ := by decide
  exact ⟨system, path, of_decide_eq_true same,
    requests_answeredAlike empty_issued unclaimed sameBody path⟩

end PlacementSystem

end OrderToCash.Orders
