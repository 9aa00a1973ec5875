import OrderToCash.Orders.CommandLifecycle
import OrderToCash.Orders.Transactions

/-!
# Command rows under the actions of Orders

A command row is enqueued by a transaction, or by the act of a cancel request,
and from then on only its status is updated: reported sent, reported rejected,
or parked.
-/

namespace OrderToCash.Orders

open OrderToCash.Contracts
open OrderToCash.Kernel
open OrderToCash.Transition

/-- The writes the body of a transaction decides on what it has read. -/
def OpenTransaction.Decides (opened : OpenTransaction) (writes : List OrdersWrite) :
    Prop :=
  match opened.work with
  | .handleFact envelope sourceTopic =>
      ∃ work, handleFact opened.snapshot envelope sourceTopic = .ok work ∧
        writes = work.writes
  | .cancelPlaced order => ∃ outcome,
      cancelPlaced opened.snapshot order = .ok (writes, outcome)
  | .onFirstPark order failure => onFirstPark opened.snapshot order failure = .ok writes

/-- The row an action enqueues. -/
inductive EnqueuesRow (system : OrdersSystem) (order : OrderNumber) :
    OrdersAction → SagaCommandKind → SagaCommandRow → Prop
  | cancel (index : Nat) (note : Option String) :
      EnqueuesRow system order (.actOnCancel index) .stockRelease
        (operatorStockReleaseRow order note)
  | commit (index : Nat) (opened : OpenTransaction) (writes : List OrdersWrite)
      (kind : SagaCommandKind) (row : SagaCommandRow)
      (found : system.openTransactions[index]? = some opened)
      (decides : opened.Decides writes) (written : .enqueue order kind row ∈ writes) :
      EnqueuesRow system order (.commit index) kind row

/-- How a row that is stored after an action came to be what it is. -/
inductive RowChange (system : OrdersSystem) (order : OrderNumber)
    (kind : SagaCommandKind) (row : SagaCommandRow) : OrdersAction → Prop
  | kept {action : OrdersAction} (before : SagaCommandRow)
      (stored : system.db.sagaCommands order kind = some before)
      (payload : row.payload = before.payload) (status : row.status = before.status) :
      RowChange system order kind row action
  | enqueued {action : OrdersAction}
      (absent : system.db.sagaCommands order kind = none)
      (enqueues : EnqueuesRow system order action kind row) :
      RowChange system order kind row action
  | sent (before : SagaCommandRow)
      (stored : system.db.sagaCommands order kind = some before)
      (payload : row.payload = before.payload) (status : row.status = .sent) :
      RowChange system order kind row (.markSent order kind)
  | rejected (attempts : Nat) (lastError : String) (before : SagaCommandRow)
      (stored : system.db.sagaCommands order kind = some before)
      (payload : row.payload = before.payload) (status : row.status = .rejected) :
      RowChange system order kind row (.markRejected order kind attempts lastError)
  | parked (attempts : Nat) (lastError : String) (before : SagaCommandRow)
      (stored : system.db.sagaCommands order kind = some before)
      (payload : row.payload = before.payload) (status : row.status = .parked) :
      RowChange system order kind row (.park order kind attempts lastError)

/-- The rows a transaction enqueues are pending. -/
theorem OpenTransaction.Decides.pending {opened : OpenTransaction}
    {writes : List OrdersWrite} (decides : opened.Decides writes) {order : OrderNumber}
    {kind : SagaCommandKind} {row : SagaCommandRow}
    (written : .enqueue order kind row ∈ writes) : row.status = .pending := by
  unfold OpenTransaction.Decides at decides
  cases work : opened.work with
  | handleFact envelope sourceTopic =>
      rw [work] at decides
      rcases decides with ⟨factWork, handled, rfl⟩
      have factWrites := handleFact_writes handled
      generalize factWork.writes = writes at factWrites written
      cases factWrites with
      | unknownOrder | preconditionUnmet | advance | cancel => simp at written
      | late | advanceOwing =>
          simp only [List.mem_cons, List.not_mem_nil, or_false, reduceCtorEq, false_or,
            OrdersWrite.enqueue.injEq] at written
          rw [written.2.2]
          rfl
  | cancelPlaced other =>
      rw [work] at decides
      rcases decides with ⟨outcome, decided⟩
      rcases cancelPlaced_writes decided with ⟨rfl, _⟩ | ⟨loaded, saved, _, _, rfl, _⟩
      · simp at written
      · simp at written
  | onFirstPark other failure =>
      rw [work] at decides
      rcases onFirstPark_writes decides with ⟨rfl, _⟩ | ⟨loaded, _, rfl⟩
      · simp at written
      · simp at written

theorem EnqueuesRow.pending {system : OrdersSystem} {order : OrderNumber}
    {action : OrdersAction} {kind : SagaCommandKind} {row : SagaCommandRow}
    (enqueues : EnqueuesRow system order action kind row) : row.status = .pending := by
  cases enqueues with
  | cancel => rfl
  | commit index opened writes _ _ found decides written => exact decides.pending written

namespace OrdersDb

variable {db db' : OrdersDb} {order : OrderNumber} {kind : SagaCommandKind}
  {row : SagaCommandRow}

theorem sagaCommands_of_enqueue {other : OrderNumber} {otherKind : SagaCommandKind}
    {enqueued : SagaCommandRow}
    (stored : (db.enqueue other otherKind enqueued).sagaCommands order kind = some row) :
    db.sagaCommands order kind = some row ∨
      db.sagaCommands order kind = none ∧ other = order ∧ otherKind = kind ∧
        enqueued = row := by
  cases before : db.sagaCommands order kind with
  | some kept =>
      rw [enqueue_sagaCommands before] at stored
      exact Or.inl stored
  | none =>
      have same := enqueue_of_absent before stored
      refine Or.inr ⟨rfl, ?_⟩
      unfold enqueue at stored
      split at stored
      · rw [setSagaCommand_sagaCommands] at stored
        split at stored
        · rename_i isThis
          exact ⟨isThis.1, isThis.2, same.symm⟩
        · rw [before] at stored
          cases stored
      · rw [before] at stored
        cases stored

/-- A row stored after writes was stored before them, or is one they enqueue. -/
theorem sagaCommands_of_writes {writes : List OrdersWrite}
    (stored : (applyWrites db writes).sagaCommands order kind = some row) :
    db.sagaCommands order kind = some row ∨
      db.sagaCommands order kind = none ∧ .enqueue order kind row ∈ writes := by
  induction writes generalizing db with
  | nil => exact Or.inl stored
  | cons write rest inductionHypothesis =>
      rcases inductionHypothesis stored with before | ⟨absent, written⟩
      · cases write with
        | save saved => exact Or.inl before
        | recordIgnored ignored => exact Or.inl before
        | enqueue other otherKind enqueued =>
            rcases sagaCommands_of_enqueue before with
              earlier | ⟨absent, rfl, rfl, rfl⟩
            · exact Or.inl earlier
            · exact Or.inr ⟨absent, List.mem_cons_self⟩
      · refine Or.inr ⟨?_, List.mem_cons_of_mem _ written⟩
        cases write with
        | save saved => exact absent
        | recordIgnored ignored => exact absent
        | enqueue other otherKind enqueued =>
            cases before : db.sagaCommands order kind with
            | none => rfl
            | some kept =>
                rw [OrdersWrite.apply, enqueue_sagaCommands before] at absent
                cases absent

/-- An update of a row changes that row only. -/
theorem sagaCommands_of_update {updated : OrderNumber} {updatedKind : SagaCommandKind}
    {update : SagaCommandRow → SagaCommandRow}
    (result : db.updateUnlessSent updated updatedKind update = some db')
    (stored : db'.sagaCommands order kind = some row) :
    db.sagaCommands order kind = some row ∨
      updated = order ∧ updatedKind = kind ∧
        ∃ before, db.sagaCommands order kind = some before ∧ row = update before := by
  unfold updateUnlessSent at result
  split at result
  · cases result
  · rename_i before isStored
    split at result
    · cases result
    · cases result
      rw [setSagaCommand_sagaCommands] at stored
      split at stored
      · rename_i isThis
        rcases isThis with ⟨rfl, rfl⟩
        exact Or.inr ⟨rfl, rfl, before, isStored, (Option.some.inj stored).symm⟩
      · exact Or.inl stored

end OrdersDb

namespace OrdersSystem

variable {system system' : OrdersSystem} {action : OrdersAction} {order : OrderNumber}
  {kind : SagaCommandKind} {row : SagaCommandRow}

/-- A commit applies what its transaction decides, to the order rows and the
command rows as they are by then. -/
theorem commit_writes {index : Nat} (stepped : step system (.commit index) = some system') :
    ∃ opened writes middle, system.openTransactions[index]? = some opened ∧
      opened.Decides writes ∧ middle.orders = system.db.orders ∧
        middle.sagaCommands = system.db.sagaCommands ∧
          system'.db = applyWrites middle writes ∧
            system'.openTransactions = system.openTransactions.eraseIdx index := by
  cases moves_of_step stepped with
  | commit _ opened _ found committed =>
      cases committed with
      | handleFact envelope sourceTopic work isWork fresh handled =>
          refine ⟨opened, work.writes,
            system.db.recordProcessed envelope.eventId, found, ?_, rfl, rfl, rfl, rfl⟩
          unfold OpenTransaction.Decides
          rw [isWork]
          exact ⟨work, handled, rfl⟩
      | cancelPlaced other writes outcome isWork decided =>
          refine ⟨opened, writes, _, found, ?_, rfl, rfl, rfl, rfl⟩
          unfold OpenTransaction.Decides
          rw [isWork]
          exact ⟨outcome, decided⟩
      | onFirstPark other failure writes isWork decided =>
          refine ⟨opened, writes, _, found, ?_, rfl, rfl, rfl, rfl⟩
          unfold OpenTransaction.Decides
          rw [isWork]
          exact decided

theorem row_change (stepped : step system action = some system')
    (stored : system'.db.sagaCommands order kind = some row) :
    RowChange system order kind row action := by
  have kept : system.db.sagaCommands order kind = some row →
      RowChange system order kind row action :=
    fun before => .kept row before rfl rfl
  cases moves_of_step stepped with
  | place | beginFact | readForCancel | notFound | cancelInTransaction | rollback
  | alreadyClaimed | beginFirstPark => exact kept stored
  | beginStockRelease index call =>
      rcases OrdersDb.sagaCommands_of_enqueue stored with
        before | ⟨absent, rfl, rfl, rfl⟩
      · exact kept before
      · exact .enqueued absent (.cancel index call.note)
  | commit index =>
      rcases commit_writes stepped with
        ⟨opened, writes, middle, found, decides, _, sameRows, applied, _⟩
      rw [applied] at stored
      rcases OrdersDb.sagaCommands_of_writes stored with before | ⟨absent, written⟩
      · rw [sameRows] at before
        exact kept before
      · rw [sameRows] at absent
        exact .enqueued absent (.commit index opened writes kind row found decides written)
  | markSent other otherKind db updated =>
      rcases OrdersDb.sagaCommands_of_update updated stored with
        before | ⟨rfl, rfl, before, isStored, rfl⟩
      · exact kept before
      · exact .sent before isStored rfl rfl
  | markRejected other otherKind attempts lastError db updated =>
      rcases OrdersDb.sagaCommands_of_update updated stored with
        before | ⟨rfl, rfl, before, isStored, rfl⟩
      · exact kept before
      · exact .rejected attempts lastError before isStored rfl rfl
  | park other otherKind attempts lastError db updated =>
      rcases OrdersDb.sagaCommands_of_update updated stored with
        before | ⟨rfl, rfl, before, isStored, rfl⟩
      · exact kept before
      · exact .parked attempts lastError before isStored rfl rfl
  | claimDeadLetter index parked db waiting claimed =>
      rcases OrdersDb.claimDeadLetter_sagaCommands claimed with
        ⟨before, isStored, _, rfl⟩
      change (system.db.setSagaCommand _ _ _).sagaCommands order kind = _ at stored
      rw [OrdersDb.setSagaCommand_sagaCommands] at stored
      split at stored
      · rename_i isThis
        rcases isThis with ⟨rfl, rfl⟩
        cases stored
        exact .kept before isStored rfl rfl
      · exact kept stored

end OrdersSystem

end OrderToCash.Orders
