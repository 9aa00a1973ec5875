import OrderToCash.Fulfillment.Effects
import OrderToCash.Transition.Run

/-!
# The Fulfillment service

The service as a labelled system.  A request is received, makes the reads its
handler makes outside the locks, each at a moment of its own, and later runs
its locked transaction on the database as it is then; any number of requests
are under way at once, of one order or of many.  What was answered is kept.
-/

namespace OrderToCash.Fulfillment

open OrderToCash.Contracts
open OrderToCash.Kernel
open OrderToCash.Transition

/-- The stock rows before the service takes its first request. -/
structure StockCatalogue where
  rows : List StockRow
  ids : (rows.map StockRow.id).Nodup
  keys : (rows.map fun row => (row.companyCode, row.productCode)).Nodup
  unreserved : ∀ row ∈ rows, row.reservedUnits = 0 ∧ 0 ≤ row.units

inductive FulfillmentRequest
  | stockReserve (request : StockReserveRequest)
  | stockRelease (request : StockReleaseRequest)
  | despatchCreate (request : DespatchCreateRequest)
  | stockReplenish (request : StockReplenishRequest)
deriving DecidableEq, Repr

/-- A request under way, with what it has read outside the locks. -/
inductive FulfillmentCall
  | stockReserve (request : StockReserveRequest)
  | stockRelease (request : StockReleaseRequest) (stockIds : List UniqueId)
  /-- No despatch advice was found; the stock rows are not read yet. -/
  | despatchLooked (request : DespatchCreateRequest)
  | despatchCreate (request : DespatchCreateRequest) (stockIds : List UniqueId)
  | stockReplenish (request : StockReplenishRequest)
deriving DecidableEq, Repr

/-- The request a call serves. -/
def FulfillmentCall.request : FulfillmentCall → FulfillmentRequest
  | .stockReserve request => .stockReserve request
  | .stockRelease request _ => .stockRelease request
  | .despatchLooked request => .despatchCreate request
  | .despatchCreate request _ => .despatchCreate request
  | .stockReplenish request => .stockReplenish request

structure FulfillmentAnswer where
  request : FulfillmentRequest
  result : Except FulfillmentError FulfillmentReply

structure FulfillmentSystem where
  db : FulfillmentDb
  calls : List FulfillmentCall
  answers : List FulfillmentAnswer

def FulfillmentSystem.initial (catalogue : StockCatalogue) : FulfillmentSystem :=
  { db :=
      { stock := catalogue.rows
        reservations := []
        despatches := []
        outbox := []
        nextId := 0
        nextDespatchNumber := 1 }
    calls := []
    answers := [] }

inductive FulfillmentAction
  /-- Receive a request and make its first read outside the locks. -/
  | receive (request : FulfillmentRequest)
  /-- Read the stock rows of a despatch whose advice was not found. -/
  | locate (index : Nat)
  /-- Run the locked transaction of a call. -/
  | run (index : Nat)
  /-- Lose a call before its transaction commits. -/
  | abort (index : Nat)
deriving DecidableEq, Repr

namespace FulfillmentSystem

def waiting (system : FulfillmentSystem) (call : FulfillmentCall) :
    FulfillmentSystem :=
  { system with calls := system.calls ++ [call] }

def answer (system : FulfillmentSystem) (request : FulfillmentRequest)
    (result : Except FulfillmentError FulfillmentReply) : FulfillmentSystem :=
  { system with answers := system.answers ++ [⟨request, result⟩] }

/-- Take a call off the calls under way. -/
def finished (system : FulfillmentSystem) (index : Nat) : FulfillmentSystem :=
  { system with calls := system.calls.eraseIdx index }

/-- The first read of a request: a release looks for the order's stock rows, a
despatch for the order's advice. -/
def receive (system : FulfillmentSystem) :
    FulfillmentRequest → FulfillmentSystem
  | .stockReserve request => system.waiting (.stockReserve request)
  | .stockRelease request =>
      match system.db.stockIdsOfOrder request.orderReference with
      | [] =>
          system.answer (.stockRelease request)
            (.ok (.alreadyReleased request.orderReference))
      | stockIds => system.waiting (.stockRelease request stockIds)
  | .despatchCreate request =>
      match system.db.findByOrderReference request.orderReference with
      | some despatch =>
          system.answer (.despatchCreate request)
            (.ok (FulfillmentDb.replyFromSnapshot despatch false))
      | none => system.waiting (.despatchLooked request)
  | .stockReplenish request => system.waiting (.stockReplenish request)

/-- The second read of a despatch. -/
def locate (system : FulfillmentSystem) (index : Nat) :
    Option FulfillmentSystem :=
  match system.calls[index]? with
  | some (.despatchLooked request) =>
      match system.db.stockIdsOfOrder request.orderReference with
      | [] =>
          some ((system.finished index).answer (.despatchCreate request)
            (.error (.noReservedStockForDespatch request.orderReference)))
      | stockIds =>
          some ((system.finished index).waiting
            (.despatchCreate request stockIds))
  | _ => none

/-- The locked transaction of a call, if all its reads are made. -/
def transaction (db : FulfillmentDb) :
    FulfillmentCall → Option (Except FulfillmentError
      (FulfillmentDb × FulfillmentReply))
  | .stockReserve request => some (db.reserve request)
  | .stockRelease request stockIds => some (db.release request stockIds)
  | .despatchLooked _ => none
  | .despatchCreate request stockIds => some (db.createDespatch request stockIds)
  | .stockReplenish request => some (db.replenish request)

/-- Commit a transaction, or roll it back with its error. -/
def settle (system : FulfillmentSystem) (request : FulfillmentRequest) :
    Except FulfillmentError (FulfillmentDb × FulfillmentReply) →
      FulfillmentSystem
  | .ok (db, reply) => { system with db := db }.answer request (.ok reply)
  | .error error => system.answer request (.error error)

def run (system : FulfillmentSystem) (index : Nat) : Option FulfillmentSystem :=
  match system.calls[index]? with
  | none => none
  | some call =>
      match transaction system.db call with
      | none => none
      | some result =>
          some ((system.finished index).settle call.request result)

/-- One action of the service. -/
def step : Step FulfillmentSystem FulfillmentAction
  | system, .receive request => some (system.receive request)
  | system, .locate index => system.locate index
  | system, .run index => system.run index
  | system, .abort index =>
      match system.calls[index]? with
      | none => none
      | some _ => some (system.finished index)

/-! ## What an action does -/

/-- What one action does: it runs the transaction of a call, or it leaves the
database alone and lets the calls and answers grow by what it reads there. -/
inductive Change (system : FulfillmentSystem) :
    FulfillmentAction → FulfillmentSystem → Prop
  | received (request : FulfillmentRequest) (call : FulfillmentCall)
      (serves : call.request = request)
      (read : ∀ release stockIds, call = .stockRelease release stockIds →
        stockIds = system.db.stockIdsOfOrder release.orderReference ∧
          stockIds ≠ [])
      (unlocated : ∀ despatch stockIds, call ≠ .despatchCreate despatch stockIds) :
      Change system (.receive request) (system.waiting call)
  | nothingToRelease (request : StockReleaseRequest)
      (none : system.db.stockIdsOfOrder request.orderReference = []) :
      Change system (.receive (.stockRelease request))
        (system.answer (.stockRelease request)
          (.ok (.alreadyReleased request.orderReference)))
  | alreadyDespatched (request : DespatchCreateRequest)
      (despatch : DespatchAdvice)
      (found : system.db.findByOrderReference request.orderReference =
        some despatch) :
      Change system (.receive (.despatchCreate request))
        (system.answer (.despatchCreate request)
          (.ok (FulfillmentDb.replyFromSnapshot despatch false)))
  | nothingToDespatch (index : Nat) (request : DespatchCreateRequest)
      (looked : system.calls[index]? = some (.despatchLooked request))
      (none : system.db.stockIdsOfOrder request.orderReference = []) :
      Change system (.locate index)
        ((system.finished index).answer (.despatchCreate request)
          (.error (.noReservedStockForDespatch request.orderReference)))
  | located (index : Nat) (request : DespatchCreateRequest)
      (looked : system.calls[index]? = some (.despatchLooked request))
      (some : system.db.stockIdsOfOrder request.orderReference ≠ []) :
      Change system (.locate index)
        ((system.finished index).waiting (.despatchCreate request
          (system.db.stockIdsOfOrder request.orderReference)))
  | committed (index : Nat) (call : FulfillmentCall) (db : FulfillmentDb)
      (reply : FulfillmentReply) (found : system.calls[index]? = some call)
      (result : transaction system.db call = some (.ok (db, reply))) :
      Change system (.run index)
        ({ system.finished index with db := db }.answer call.request (.ok reply))
  | refused (index : Nat) (call : FulfillmentCall) (error : FulfillmentError)
      (found : system.calls[index]? = some call)
      (result : transaction system.db call = some (.error error)) :
      Change system (.run index)
        ((system.finished index).answer call.request (.error error))
  | aborted (index : Nat) : Change system (.abort index) (system.finished index)

theorem step_change {system system' : FulfillmentSystem}
    {action : FulfillmentAction} (stepped : step system action = some system') :
    Change system action system' := by
  cases action with
  | receive request =>
      cases stepped
      cases request with
      | stockReserve request =>
          exact .received _ (.stockReserve request) rfl (by simp) (by simp)
      | stockRelease request =>
          simp only [receive]
          split
          · rename_i none
            exact .nothingToRelease request none
          · rename_i some
            refine .received _ (.stockRelease request _) rfl ?_ (by simp)
            rintro release stockIds same
            cases same
            exact ⟨rfl, some⟩
      | despatchCreate request =>
          simp only [receive]
          split
          · rename_i despatch found
            exact .alreadyDespatched request despatch found
          · exact .received _ (.despatchLooked request) rfl (by simp) (by simp)
      | stockReplenish request =>
          exact .received _ (.stockReplenish request) rfl (by simp) (by simp)
  | locate index =>
      simp only [step, locate] at stepped
      split at stepped
      · rename_i request looked
        split at stepped
        · rename_i none
          cases stepped
          exact .nothingToDespatch index request looked none
        · rename_i some
          cases stepped
          exact .located index request looked some
      · cases stepped
  | run index =>
      simp only [step, run] at stepped
      split at stepped
      · cases stepped
      · rename_i call found
        split at stepped
        · cases stepped
        · rename_i result ran
          cases stepped
          cases result with
          | ok value =>
              obtain ⟨db, reply⟩ := value
              exact .committed index call db reply found ran
          | error error => exact .refused index call error found ran
  | abort index =>
      simp only [step] at stepped
      split at stepped
      · cases stepped
      · cases stepped
        exact .aborted index

end FulfillmentSystem

end OrderToCash.Fulfillment
