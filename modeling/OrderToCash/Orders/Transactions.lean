import OrderToCash.Orders.Handlers
import OrderToCash.Transition.Run

/-!
# Interleaved Orders transactions

The Orders service as a labelled system.  A transaction opens with the database
as it reads it and commits later, applying its writes to the database as it is
then; any number of transactions may be open at once.  A cancel request first
reads the order outside any transaction, and acts on that status at a later
moment.  The updates a dispatcher makes to command rows are single statements.
-/

namespace OrderToCash.Orders

open OrderToCash.Contracts
open OrderToCash.Kernel
open OrderToCash.Transition

/-- The three transactions that load an order and write it back. -/
inductive OrdersTransaction
  | handleFact (envelope : Envelope) (sourceTopic : Topic)
  | cancelPlaced (order : OrderNumber)
  | onFirstPark (order : OrderNumber) (failure : SagaFailureInput)
deriving DecidableEq, Repr

/-- The order a transaction loads. -/
def OrdersTransaction.order : OrdersTransaction → OrderNumber
  | .handleFact envelope _ => envelope.correlationId
  | .cancelPlaced order => order
  | .onFirstPark order _ => order

/-- A transaction that has read the database and has not ended. -/
structure OpenTransaction where
  work : OrdersTransaction
  snapshot : OrdersDb

/-- A cancel request between its read outside any transaction and its act. -/
structure CancelCall where
  order : OrderNumber
  note : Option String
  statusRead : Option OrderStatus
deriving DecidableEq, Repr

/-- An answered cancel request. -/
structure CancelAnswer where
  order : OrderNumber
  outcome : CancelOutcome
deriving DecidableEq, Repr

/-- A command that exhausted its attempts, on its way to the dead letters. -/
structure ParkedDispatch where
  order : OrderNumber
  kind : SagaCommandKind
  attempts : Nat
  lastError : String
deriving DecidableEq, Repr

structure OrdersSystem where
  db : OrdersDb
  openTransactions : List OpenTransaction
  cancelCalls : List CancelCall
  cancelAnswers : List CancelAnswer
  parkedDispatches : List ParkedDispatch
  firstParks : List ParkedDispatch

def OrdersSystem.initial : OrdersSystem :=
  { db := OrdersDb.empty
    openTransactions := []
    cancelCalls := []
    cancelAnswers := []
    parkedDispatches := []
    firstParks := [] }

inductive OrdersAction
  /-- Accept an order; its lines get identifiers from `firstLineId` on, and the
  tables give it back in a form of theirs. -/
  | place (firstLineId : Nat) (input : PlaceOrderInput) (form : StoredForm)
  /-- Open the transaction of one delivery of a fact. -/
  | beginFact (envelope : Envelope) (sourceTopic : Topic)
  /-- Read the status a cancel request will act on. -/
  | readForCancel (order : OrderNumber) (note : Option String)
  /-- Act on the status a cancel request has read. -/
  | actOnCancel (index : Nat)
  | commit (index : Nat)
  | rollback (index : Nat)
  | markSent (order : OrderNumber) (kind : SagaCommandKind)
  | markRejected (order : OrderNumber) (kind : SagaCommandKind) (attempts : Nat)
      (lastError : String)
  | park (order : OrderNumber) (kind : SagaCommandKind) (attempts : Nat)
      (lastError : String)
  /-- Claim a parked command for the dead letters. -/
  | claimDeadLetter (index : Nat)
  /-- Open the transaction of the dead-letter hook. -/
  | beginFirstPark (index : Nat)
deriving DecidableEq, Repr

/-- The wire name of a command. -/
def SagaCommandKind.wireName : SagaCommandKind → String
  | .stockReserve => "stock.reserve"
  | .stockRelease => "stock.release"
  | .despatchCreate => "despatch.create"
  | .creditHold => "credit.hold"
  | .invoiceIssue => "invoice.issue"
  | .creditRelease => "credit.release"

namespace OrdersSystem

/-- Open a transaction on the database as it is now. -/
def openTransaction (system : OrdersSystem) (work : OrdersTransaction) : OrdersSystem :=
  { system with
    openTransactions := system.openTransactions ++ [⟨work, system.db⟩] }

def answer (system : OrdersSystem) (order : OrderNumber)
    (outcome : CancelOutcome) : OrdersSystem :=
  { system with
    cancelAnswers := system.cancelAnswers ++ [⟨order, outcome⟩] }

/-- Accept an order under a reference not allocated before.  Where no amount is
negative, every form with its lines fits it. -/
def place (system : OrdersSystem) (firstLineId : Nat) (input : PlaceOrderInput)
    (form : StoredForm) : Option OrdersSystem :=
  match system.db.orders input.orderReference with
  | some _ => none
  | none =>
      match Order.place (fun index => ⟨firstLineId + index⟩) input with
      | .error _ => none
      | .ok order =>
          if form.Fits order.props then
            some { system with db := system.db.insert order form }
          else
            none

/-- The read of a cancel request. -/
def readForCancel (system : OrdersSystem) (order : OrderNumber)
    (note : Option String) : Option OrdersSystem :=
  match system.db.findById order with
  | .error _ => none
  | .ok found =>
      some
        { system with
          cancelCalls := system.cancelCalls ++
            [⟨order, note, found.map fun loaded => loaded.props.status⟩] }

/-- The act of a cancel request: the stock release is enqueued, or the placed
branch opens its transaction. -/
def actOnCancel (system : OrdersSystem) (index : Nat) : Option OrdersSystem :=
  match system.cancelCalls[index]? with
  | none => none
  | some call =>
      let waiting :=
        { system with cancelCalls := system.cancelCalls.eraseIdx index }
      match cancelBranch call.statusRead with
      | .notFound => some (waiting.answer call.order .notFound)
      | .beginStockRelease status planned =>
          some
            ({ waiting with
                db := waiting.db.enqueue call.order .stockRelease
                  (operatorStockReleaseRow call.order call.note) }.answer
              call.order (.compensationPending status planned))
      | .cancelInTransaction => some (waiting.openTransaction (.cancelPlaced call.order))

/-- Commit what an open transaction decided; a delivery of a fact already
processed violates the unique key and does not commit. -/
def commitWork (system : OrdersSystem) (opened : OpenTransaction) :
    Option OrdersSystem :=
  match opened.work with
  | .handleFact envelope sourceTopic =>
      if envelope.eventId ∈ system.db.processedEvents then
        none
      else
        match handleFact opened.snapshot envelope sourceTopic with
        | .error _ => none
        | .ok work =>
            some
              { system with
                db := applyWrites (system.db.recordProcessed envelope.eventId)
                  work.writes }
  | .cancelPlaced order =>
      match cancelPlaced opened.snapshot order with
      | .error _ => none
      | .ok (writes, outcome) =>
          some
            ({ system with db := applyWrites system.db writes }.answer
              order outcome)
  | .onFirstPark order failure =>
      match onFirstPark opened.snapshot order failure with
      | .error _ => none
      | .ok writes => some { system with db := applyWrites system.db writes }

def commit (system : OrdersSystem) (index : Nat) : Option OrdersSystem :=
  match system.openTransactions[index]? with
  | none => none
  | some opened =>
      { system with
        openTransactions := system.openTransactions.eraseIdx index }.commitWork
          opened

def rollback (system : OrdersSystem) (index : Nat) : Option OrdersSystem :=
  match system.openTransactions[index]? with
  | none => none
  | some _ =>
      some
        { system with
          openTransactions := system.openTransactions.eraseIdx index }

/-- Park a command; the dispatcher that performed the transition goes on to
claim the row. -/
def park (system : OrdersSystem) (order : OrderNumber) (kind : SagaCommandKind)
    (attempts : Nat) (lastError : String) : Option OrdersSystem :=
  (system.db.park order kind attempts lastError).map fun db =>
    { system with
      db := db
      parkedDispatches :=
        system.parkedDispatches ++ [⟨order, kind, attempts, lastError⟩] }

def claimDeadLetter (system : OrdersSystem) (index : Nat) :
    Option OrdersSystem :=
  match system.parkedDispatches[index]? with
  | none => none
  | some parked =>
      let rest :=
        { system with
          parkedDispatches := system.parkedDispatches.eraseIdx index }
      match system.db.claimDeadLetter parked.order parked.kind with
      | none => some rest
      | some db =>
          some { rest with db := db, firstParks := rest.firstParks ++ [parked] }

def beginFirstPark (system : OrdersSystem) (index : Nat) : Option OrdersSystem :=
  match system.firstParks[index]? with
  | none => none
  | some parked =>
      let rest := { system with firstParks := system.firstParks.eraseIdx index }
      some (rest.openTransaction (.onFirstPark parked.order
        ⟨parked.kind.wireName, parked.attempts, parked.lastError⟩))

/-- One action of the Orders service. -/
def step : Step OrdersSystem OrdersAction
  | system, .place firstLineId input form => system.place firstLineId input form
  | system, .beginFact envelope sourceTopic =>
      if IsSkipped envelope.eventType then
        none
      else
        some (system.openTransaction (.handleFact envelope sourceTopic))
  | system, .readForCancel order note => system.readForCancel order note
  | system, .actOnCancel index => system.actOnCancel index
  | system, .commit index => system.commit index
  | system, .rollback index => system.rollback index
  | system, .markSent order kind =>
      (system.db.markSent order kind).map fun db => { system with db := db }
  | system, .markRejected order kind attempts lastError =>
      (system.db.markRejected order kind attempts lastError).map fun db =>
        { system with db := db }
  | system, .park order kind attempts lastError =>
      system.park order kind attempts lastError
  | system, .claimDeadLetter index => system.claimDeadLetter index
  | system, .beginFirstPark index => system.beginFirstPark index

/-! ## What an action does -/

/-- What a transaction decides is what its commit applies. -/
inductive Commits (system : OrdersSystem) (opened : OpenTransaction) : OrdersSystem → Prop
  | handleFact (envelope : Envelope) (sourceTopic : Topic) (work : FactWork)
      (isWork : opened.work = .handleFact envelope sourceTopic)
      (fresh : envelope.eventId ∉ system.db.processedEvents)
      (handled : Orders.handleFact opened.snapshot envelope sourceTopic = .ok work) :
      Commits system opened
        { system with
          db := applyWrites (system.db.recordProcessed envelope.eventId) work.writes }
  | cancelPlaced (order : OrderNumber) (writes : List OrdersWrite) (outcome : CancelOutcome)
      (isWork : opened.work = .cancelPlaced order)
      (decided : Orders.cancelPlaced opened.snapshot order = .ok (writes, outcome)) :
      Commits system opened
        ({ system with db := applyWrites system.db writes }.answer order outcome)
  | onFirstPark (order : OrderNumber) (failure : SagaFailureInput)
      (writes : List OrdersWrite) (isWork : opened.work = .onFirstPark order failure)
      (decided : Orders.onFirstPark opened.snapshot order failure = .ok writes) :
      Commits system opened { system with db := applyWrites system.db writes }

theorem commits_of_commitWork {system system' : OrdersSystem} {opened : OpenTransaction}
    (committed : system.commitWork opened = some system') :
    Commits system opened system' := by
  unfold commitWork at committed
  split at committed
  · rename_i envelope sourceTopic isWork
    split at committed
    · cases committed
    · rename_i fresh
      split at committed
      · cases committed
      · rename_i work handled
        cases committed
        exact .handleFact envelope sourceTopic work isWork fresh handled
  · rename_i order isWork
    split at committed
    · cases committed
    · rename_i writes outcome decided
      cases committed
      exact .cancelPlaced order writes outcome isWork decided
  · rename_i order failure isWork
    split at committed
    · cases committed
    · rename_i writes decided
      cases committed
      exact .onFirstPark order failure writes isWork decided

/-- What each action finds, and what it leaves. -/
inductive Moves (system : OrdersSystem) : OrdersAction → OrdersSystem → Prop
  | place (firstLineId : Nat) (input : PlaceOrderInput) (form : StoredForm)
      (created : Order) (unknown : system.db.orders input.orderReference = none)
      (isCreated : Order.place (fun index => ⟨firstLineId + index⟩) input = .ok created)
      (fits : form.Fits created.props) :
      Moves system (.place firstLineId input form)
        { system with db := system.db.insert created form }
  | beginFact (envelope : Envelope) (sourceTopic : Topic)
      (heeded : ¬IsSkipped envelope.eventType) :
      Moves system (.beginFact envelope sourceTopic)
        (system.openTransaction (.handleFact envelope sourceTopic))
  | readForCancel (order : OrderNumber) (note : Option String) (found : Option Order)
      (isFound : system.db.findById order = .ok found) :
      Moves system (.readForCancel order note)
        { system with
          cancelCalls := system.cancelCalls ++
            [⟨order, note, found.map fun loaded => loaded.props.status⟩] }
  | notFound (index : Nat) (call : CancelCall)
      (waiting : system.cancelCalls[index]? = some call)
      (branch : cancelBranch call.statusRead = .notFound) :
      Moves system (.actOnCancel index)
        ({ system with cancelCalls := system.cancelCalls.eraseIdx index }.answer
          call.order .notFound)
  | beginStockRelease (index : Nat) (call : CancelCall) (status : OrderStatus)
      (planned : List PlannedCompensation)
      (waiting : system.cancelCalls[index]? = some call)
      (branch : cancelBranch call.statusRead = .beginStockRelease status planned) :
      Moves system (.actOnCancel index)
        ({ system with
            db := system.db.enqueue call.order .stockRelease
              (operatorStockReleaseRow call.order call.note)
            cancelCalls := system.cancelCalls.eraseIdx index }.answer
          call.order (.compensationPending status planned))
  | cancelInTransaction (index : Nat) (call : CancelCall)
      (waiting : system.cancelCalls[index]? = some call)
      (branch : cancelBranch call.statusRead = .cancelInTransaction) :
      Moves system (.actOnCancel index)
        ({ system with
            cancelCalls := system.cancelCalls.eraseIdx index }.openTransaction
          (.cancelPlaced call.order))
  | commit (index : Nat) (opened : OpenTransaction) (system' : OrdersSystem)
      (found : system.openTransactions[index]? = some opened)
      (committed : Commits
        { system with openTransactions := system.openTransactions.eraseIdx index }
        opened system') :
      Moves system (.commit index) system'
  | rollback (index : Nat) (opened : OpenTransaction)
      (found : system.openTransactions[index]? = some opened) :
      Moves system (.rollback index)
        { system with openTransactions := system.openTransactions.eraseIdx index }
  | markSent (order : OrderNumber) (kind : SagaCommandKind) (db : OrdersDb)
      (updated : system.db.markSent order kind = some db) :
      Moves system (.markSent order kind) { system with db := db }
  | markRejected (order : OrderNumber) (kind : SagaCommandKind) (attempts : Nat)
      (lastError : String) (db : OrdersDb)
      (updated : system.db.markRejected order kind attempts lastError = some db) :
      Moves system (.markRejected order kind attempts lastError) { system with db := db }
  | park (order : OrderNumber) (kind : SagaCommandKind) (attempts : Nat)
      (lastError : String) (db : OrdersDb)
      (updated : system.db.park order kind attempts lastError = some db) :
      Moves system (.park order kind attempts lastError)
        { system with
          db := db
          parkedDispatches :=
            system.parkedDispatches ++ [⟨order, kind, attempts, lastError⟩] }
  | alreadyClaimed (index : Nat) (parked : ParkedDispatch)
      (waiting : system.parkedDispatches[index]? = some parked)
      (claimed : system.db.claimDeadLetter parked.order parked.kind = none) :
      Moves system (.claimDeadLetter index)
        { system with parkedDispatches := system.parkedDispatches.eraseIdx index }
  | claimDeadLetter (index : Nat) (parked : ParkedDispatch) (db : OrdersDb)
      (waiting : system.parkedDispatches[index]? = some parked)
      (claimed : system.db.claimDeadLetter parked.order parked.kind = some db) :
      Moves system (.claimDeadLetter index)
        { system with
          db := db
          parkedDispatches := system.parkedDispatches.eraseIdx index
          firstParks := system.firstParks ++ [parked] }
  | beginFirstPark (index : Nat) (parked : ParkedDispatch)
      (waiting : system.firstParks[index]? = some parked) :
      Moves system (.beginFirstPark index)
        ({ system with firstParks := system.firstParks.eraseIdx index }.openTransaction
          (.onFirstPark parked.order
            ⟨parked.kind.wireName, parked.attempts, parked.lastError⟩))

theorem moves_of_step {system system' : OrdersSystem} {action : OrdersAction}
    (stepped : step system action = some system') : Moves system action system' := by
  cases action with
  | place firstLineId input form =>
      simp only [step, place] at stepped
      split at stepped
      · cases stepped
      · rename_i unknown
        split at stepped
        · cases stepped
        · rename_i created isCreated
          split at stepped
          · rename_i fits
            cases stepped
            exact .place firstLineId input form created unknown isCreated fits
          · cases stepped
  | beginFact envelope sourceTopic =>
      simp only [step] at stepped
      split at stepped
      · cases stepped
      · rename_i heeded
        cases stepped
        exact .beginFact envelope sourceTopic heeded
  | readForCancel order note =>
      simp only [step, readForCancel] at stepped
      split at stepped
      · cases stepped
      · rename_i found isFound
        cases stepped
        exact .readForCancel order note found isFound
  | actOnCancel index =>
      simp only [step, actOnCancel] at stepped
      split at stepped
      · cases stepped
      · rename_i call waiting
        split at stepped
        · rename_i branch
          cases stepped
          exact .notFound index call waiting branch
        · rename_i status planned branch
          cases stepped
          exact .beginStockRelease index call status planned waiting branch
        · rename_i branch
          cases stepped
          exact .cancelInTransaction index call waiting branch
  | commit index =>
      simp only [step, commit] at stepped
      split at stepped
      · cases stepped
      · rename_i opened found
        exact .commit index opened system' found (commits_of_commitWork stepped)
  | rollback index =>
      simp only [step, rollback] at stepped
      split at stepped
      · cases stepped
      · rename_i opened found
        cases stepped
        exact .rollback index opened found
  | markSent order kind =>
      rcases Option.map_eq_some_iff.mp stepped with ⟨db, updated, rfl⟩
      exact .markSent order kind db updated
  | markRejected order kind attempts lastError =>
      rcases Option.map_eq_some_iff.mp stepped with ⟨db, updated, rfl⟩
      exact .markRejected order kind attempts lastError db updated
  | park order kind attempts lastError =>
      rcases Option.map_eq_some_iff.mp stepped with ⟨db, updated, rfl⟩
      exact .park order kind attempts lastError db updated
  | claimDeadLetter index =>
      simp only [step, claimDeadLetter] at stepped
      split at stepped
      · cases stepped
      · rename_i parked waiting
        split at stepped
        · rename_i claimed
          cases stepped
          exact .alreadyClaimed index parked waiting claimed
        · rename_i db claimed
          cases stepped
          exact .claimDeadLetter index parked db waiting claimed
  | beginFirstPark index =>
      simp only [step, beginFirstPark] at stepped
      split at stepped
      · cases stepped
      · rename_i parked waiting
        cases stepped
        exact .beginFirstPark index parked waiting

/-! ## What an action can do to the order rows -/

theorem mem_openTransaction {system : OrdersSystem} {work : OrdersTransaction}
    {opened : OpenTransaction}
    (openedMem : opened ∈ (system.openTransaction work).openTransactions) :
    opened ∈ system.openTransactions ∨ opened.snapshot = system.db := by
  simp only [openTransaction, List.mem_append, List.mem_singleton] at openedMem
  rcases openedMem with before | rfl
  · exact Or.inl before
  · exact Or.inr rfl

/-- Among the actions only a placement and a commit touch an order row; the
others may open a transaction on the database as it is. -/
theorem step_orders {system system' : OrdersSystem}
    {action : OrdersAction} (stepped : step system action = some system') :
    (∃ firstLineId input form created, action = .place firstLineId input form ∧
        system.db.orders input.orderReference = none ∧
        Order.place (fun index => ⟨firstLineId + index⟩) input = .ok created ∧
        form.Fits created.props ∧
        system' = { system with db := system.db.insert created form }) ∨
      (∃ index opened, action = .commit index ∧
        system.openTransactions[index]? = some opened ∧
        Commits
          { system with openTransactions := system.openTransactions.eraseIdx index }
          opened system') ∨
      (system'.db.orders = system.db.orders ∧
        (∀ index, action ≠ .commit index) ∧
        ∀ opened ∈ system'.openTransactions,
          opened ∈ system.openTransactions ∨ opened.snapshot = system.db) := by
  cases moves_of_step stepped with
  | place firstLineId input form created unknown isCreated fits =>
      exact Or.inl ⟨firstLineId, input, form, created, rfl, unknown, isCreated, fits, rfl⟩
  | commit index opened _ found committed =>
      exact Or.inr (Or.inl ⟨index, opened, rfl, found, committed⟩)
  | beginFact | cancelInTransaction | beginFirstPark =>
      exact Or.inr (Or.inr ⟨rfl, by simp, fun _ => mem_openTransaction⟩)
  | readForCancel | notFound | alreadyClaimed =>
      exact Or.inr (Or.inr ⟨rfl, by simp, fun _ before => Or.inl before⟩)
  | beginStockRelease =>
      exact Or.inr (Or.inr ⟨OrdersDb.enqueue_orders _ _ _ _, by simp,
        fun _ before => Or.inl before⟩)
  | rollback =>
      exact Or.inr (Or.inr ⟨rfl, by simp,
        fun _ kept => Or.inl (List.mem_of_mem_eraseIdx kept)⟩)
  | markSent _ _ _ updated | markRejected _ _ _ _ _ updated | park _ _ _ _ _ updated =>
      exact Or.inr (Or.inr ⟨OrdersDb.updateUnlessSent_orders updated, by simp,
        fun _ before => Or.inl before⟩)
  | claimDeadLetter _ _ _ _ claimed =>
      exact Or.inr (Or.inr ⟨OrdersDb.claimDeadLetter_orders claimed, by simp,
        fun _ before => Or.inl before⟩)

end OrdersSystem

end OrderToCash.Orders
