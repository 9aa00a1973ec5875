import OrderToCash.Billing.Handlers
import OrderToCash.Transition.Run

/-!
# The Billing service

The service as a labelled system, like Fulfillment's: requests are received in
any number, make their reads outside the transaction at moments of their own,
and later run it under the lock of their credit line.  The random draw of the
credit simulator comes with the action that runs a hold.
-/

namespace OrderToCash.Billing

open OrderToCash.Contracts
open OrderToCash.Kernel
open OrderToCash.Transition

/-- The credit lines before the service takes its first request. -/
structure CreditCatalogue where
  rows : List CreditRow
  ids : (rows.map CreditRow.id).Nodup
  keys : (rows.map fun row => (row.retailerCode, row.companyCode)).Nodup
  limits : ∀ row ∈ rows, 0 ≤ row.creditLimit

inductive BillingRequest
  | creditHold (request : CreditHoldRequest)
  | creditRelease (request : CreditReleaseRequest)
  | invoiceIssue (request : InvoiceIssueRequest)
  | paymentRegister (request : PaymentRegisterRequest)
deriving DecidableEq, Repr

/-- A request under way, with what it has read outside its transaction. -/
inductive BillingCall
  | creditHold (request : CreditHoldRequest)
  | creditRelease (request : CreditReleaseRequest)
  | invoiceIssue (request : InvoiceIssueRequest)
  /-- No payment was found; the invoice is not resolved yet. -/
  | paymentLooked (request : PaymentRegisterRequest)
  | paymentRegister (request : PaymentRegisterRequest) (invoice : InvoiceRow)
deriving DecidableEq, Repr

/-- The request a call serves. -/
def BillingCall.request : BillingCall → BillingRequest
  | .creditHold request => .creditHold request
  | .creditRelease request => .creditRelease request
  | .invoiceIssue request => .invoiceIssue request
  | .paymentLooked request => .paymentRegister request
  | .paymentRegister request _ => .paymentRegister request

structure BillingAnswer where
  request : BillingRequest
  result : Except BillingError BillingReply

structure BillingSystem where
  db : BillingDb
  calls : List BillingCall
  answers : List BillingAnswer

def BillingSystem.initial (catalogue : CreditCatalogue) : BillingSystem :=
  { db :=
      { credits := catalogue.rows
        creditItems := []
        invoices := []
        payments := []
        outbox := []
        nextId := 0
        nextInvoiceNumber := 1 }
    calls := []
    answers := [] }

inductive BillingAction
  /-- Receive a request and make its first read outside the transaction. -/
  | receive (request : BillingRequest)
  /-- Resolve the invoice of a payment that is not recorded. -/
  | locate (index : Nat)
  /-- Run the transaction of a call, with the draw a hold may ask for. -/
  | run (index : Nat) (drawn : Bool)
  /-- Lose a call before its transaction commits. -/
  | abort (index : Nat)
deriving DecidableEq, Repr

namespace BillingSystem

def waiting (system : BillingSystem) (call : BillingCall) : BillingSystem :=
  { system with calls := system.calls ++ [call] }

def answer (system : BillingSystem) (request : BillingRequest)
    (result : Except BillingError BillingReply) : BillingSystem :=
  { system with answers := system.answers ++ [⟨request, result⟩] }

/-- Take a call off the calls under way. -/
def finished (system : BillingSystem) (index : Nat) : BillingSystem :=
  { system with calls := system.calls.eraseIdx index }

/-- The first read of a request: an invoicing looks for the order's invoice, a
payment for its own reference. -/
def receive (system : BillingSystem) : BillingRequest → BillingSystem
  | .creditHold request => system.waiting (.creditHold request)
  | .creditRelease request => system.waiting (.creditRelease request)
  | .invoiceIssue request =>
      match system.db.findByOrderReference request.orderReference with
      | some existing =>
          system.answer (.invoiceIssue request)
            (.ok (BillingDb.replyFromSnapshot existing false))
      | none => system.waiting (.invoiceIssue request)
  | .paymentRegister request =>
      match system.db.findPaymentByReference request.paymentReference with
      | some payment =>
          system.answer (.paymentRegister request)
            (system.db.answerRecorded request payment)
      | none => system.waiting (.paymentLooked request)

/-- The second read of a payment. -/
def locate (system : BillingSystem) (index : Nat) : Option BillingSystem :=
  match system.calls[index]? with
  | some (.paymentLooked request) =>
      match system.db.resolveInvoice request with
      | none =>
          some ((system.finished index).answer (.paymentRegister request)
            (.error (.invoiceNotFound (BillingDb.identityOf request))))
      | some invoice =>
          some ((system.finished index).waiting
            (.paymentRegister request invoice))
  | _ => none

/-- The transaction of a call; a payment not resolved yet has none. -/
def transaction (db : BillingDb) (drawn : Bool) :
    BillingCall → Option (Except BillingError (BillingDb × BillingReply))
  | .creditHold request => some (db.hold request drawn)
  | .creditRelease request => some (db.releaseCredit request)
  | .invoiceIssue request => some (db.issueInvoice request)
  | .paymentLooked _ => none
  | .paymentRegister request invoice =>
      some (db.registerPayment request invoice)

/-- Commit a transaction, or roll it back with its error. -/
def settle (system : BillingSystem) (request : BillingRequest) :
    Except BillingError (BillingDb × BillingReply) → BillingSystem
  | .ok (db, reply) => { system with db := db }.answer request (.ok reply)
  | .error error => system.answer request (.error error)

def run (system : BillingSystem) (index : Nat) (drawn : Bool) :
    Option BillingSystem :=
  match system.calls[index]? with
  | none => none
  | some call =>
      match transaction system.db drawn call with
      | none => none
      | some result =>
          some ((system.finished index).settle call.request result)

/-- One action of the service. -/
def step : Step BillingSystem BillingAction
  | system, .receive request => some (system.receive request)
  | system, .locate index => system.locate index
  | system, .run index drawn => system.run index drawn
  | system, .abort index =>
      match system.calls[index]? with
      | none => none
      | some _ => some (system.finished index)

/-! ## What an action does -/

/-- What one action does: it runs the transaction of a call, or it leaves the
database alone and lets the calls and answers grow by what it reads there. -/
inductive Change (system : BillingSystem) :
    BillingAction → BillingSystem → Prop
  | received (request : BillingRequest) (call : BillingCall)
      (serves : call.request = request)
      (unresolved : ∀ payment invoice, call ≠ .paymentRegister payment invoice) :
      Change system (.receive request) (system.waiting call)
  | alreadyInvoiced (request : InvoiceIssueRequest) (existing : InvoiceRow)
      (found : system.db.findByOrderReference request.orderReference =
        some existing) :
      Change system (.receive (.invoiceIssue request))
        (system.answer (.invoiceIssue request)
          (.ok (BillingDb.replyFromSnapshot existing false)))
  | alreadyRecorded (request : PaymentRegisterRequest) (payment : PaymentRow)
      (found : system.db.findPaymentByReference request.paymentReference =
        some payment) :
      Change system (.receive (.paymentRegister request))
        (system.answer (.paymentRegister request)
          (system.db.answerRecorded request payment))
  | unknownInvoice (index : Nat) (request : PaymentRegisterRequest)
      (looked : system.calls[index]? = some (.paymentLooked request))
      (none : system.db.resolveInvoice request = none) :
      Change system (.locate index)
        ((system.finished index).answer (.paymentRegister request)
          (.error (.invoiceNotFound (BillingDb.identityOf request))))
  | resolved (index : Nat) (request : PaymentRegisterRequest)
      (invoice : InvoiceRow)
      (looked : system.calls[index]? = some (.paymentLooked request))
      (found : system.db.resolveInvoice request = some invoice) :
      Change system (.locate index)
        ((system.finished index).waiting (.paymentRegister request invoice))
  | committed (index : Nat) (drawn : Bool) (call : BillingCall)
      (db : BillingDb) (reply : BillingReply)
      (found : system.calls[index]? = some call)
      (result : transaction system.db drawn call = some (.ok (db, reply))) :
      Change system (.run index drawn)
        ({ system.finished index with db := db }.answer call.request (.ok reply))
  | refused (index : Nat) (drawn : Bool) (call : BillingCall)
      (error : BillingError) (found : system.calls[index]? = some call)
      (result : transaction system.db drawn call = some (.error error)) :
      Change system (.run index drawn)
        ((system.finished index).answer call.request (.error error))
  | aborted (index : Nat) : Change system (.abort index) (system.finished index)

theorem step_change {system system' : BillingSystem} {action : BillingAction}
    (stepped : step system action = some system') :
    Change system action system' := by
  cases action with
  | receive request =>
      cases stepped
      cases request with
      | creditHold request =>
          exact .received _ (.creditHold request) rfl (by simp)
      | creditRelease request =>
          exact .received _ (.creditRelease request) rfl (by simp)
      | invoiceIssue request =>
          simp only [receive]
          split
          · rename_i existing found
            exact .alreadyInvoiced request existing found
          · exact .received _ (.invoiceIssue request) rfl (by simp)
      | paymentRegister request =>
          simp only [receive]
          split
          · rename_i payment found
            exact .alreadyRecorded request payment found
          · exact .received _ (.paymentLooked request) rfl (by simp)
  | locate index =>
      simp only [step, locate] at stepped
      split at stepped
      · rename_i request looked
        split at stepped
        · rename_i none
          cases stepped
          exact .unknownInvoice index request looked none
        · rename_i invoice found
          cases stepped
          exact .resolved index request invoice looked found
      · cases stepped
  | run index drawn =>
      simp only [step, run] at stepped
      split at stepped
      · cases stepped
      · rename_i call found
        split at stepped
        · cases stepped
        · rename_i result ran
          cases stepped
          cases result with
          | ok value =>
              obtain ⟨db, reply⟩ := value
              exact .committed index drawn call db reply found ran
          | error error => exact .refused index drawn call error found ran
  | abort index =>
      simp only [step] at stepped
      split at stepped
      · cases stepped
      · cases stepped
        exact .aborted index

end BillingSystem

end OrderToCash.Billing
