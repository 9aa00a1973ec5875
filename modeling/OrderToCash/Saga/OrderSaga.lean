import OrderToCash.Billing.CreditPhase
import OrderToCash.Fulfillment.OrderView
import OrderToCash.Orders.Reaction
import Mathlib.Tactic.Simps.Basic

/-!
# The saga of one order

What matters of an order across the three services: the versions of it that
were ever committed, the commands it owes, the facts about it that were emitted
and those Orders has handled, its reservation and its credit.  A transaction
that handles a fact may have read any version; a command that is owed may be
carried out at any time and any number of times.
-/

namespace OrderToCash.Saga

open OrderToCash.Billing
open OrderToCash.Contracts
open OrderToCash.Fulfillment
open OrderToCash.Kernel
open OrderToCash.Orders

/-- A rejection leaves no trace, so its command may be rejected again. -/
def Repeatable (fact : SagaFact) : Prop :=
  fact = .stockRejected ∨ fact = .creditRejected

/-- The facts of a service that are emitted in this order. -/
def Precedes : SagaFact → SagaFact → Prop
  | .creditApproved, .invoiceIssued => True
  | .creditApproved, .creditReleased _ => True
  | .invoiceIssued, .paymentReceived => True
  | .paymentReceived, .creditReleased .invoicePaid => True
  | _, _ => False

structure OrderSaga where
  current : Version
  /-- The versions committed so far. -/
  past : Version → Prop
  owed : SagaCommandKind → Prop
  /-- The stock release is owed for the reason. -/
  releaseFor : StockReleaseReason → Prop
  /-- An operator's cancel request was answered as accepted. -/
  agreed : Prop
  pending : SagaFact → Prop
  handled : SagaFact → Prop
  stock : Option ReservationStatus
  credit : CreditPhase

namespace OrderSaga

/-- The order is not placed yet. -/
def unplaced : Version := ⟨none, none, false⟩

def initial : OrderSaga :=
  { current := unplaced
    past := fun version => version = unplaced
    owed := fun _ => False
    releaseFor := fun _ => False
    agreed := False
    pending := fun _ => False
    handled := fun _ => False
    stock := none
    credit := .unheld }

def emitted (saga : OrderSaga) (fact : SagaFact) : Prop :=
  saga.pending fact ∨ saga.handled fact

/-! ## What a move changes -/

@[simps]
def commit (saga : OrderSaga) (version : Version) : OrderSaga :=
  { saga with
    current := version
    past := fun other => other = version ∨ saga.past other }

@[simps]
def owe (saga : OrderSaga) (kind : SagaCommandKind) : OrderSaga :=
  { saga with owed := fun other => other = kind ∨ saga.owed other }

/-- A stock release that is owed already keeps its reason. -/
@[simps]
def oweRelease (saga : OrderSaga) (reason : StockReleaseReason) : OrderSaga :=
  { saga.owe .stockRelease with
    releaseFor := fun other =>
      saga.releaseFor other ∨ ¬ saga.owed .stockRelease ∧ other = reason }

@[simps]
def emit (saga : OrderSaga) (fact : SagaFact) : OrderSaga :=
  { saga with pending := fun other => other = fact ∨ saga.pending other }

/-- One fact is handled; `rest` says whether another of its kind is pending. -/
@[simps]
def consume (saga : OrderSaga) (fact : SagaFact) (rest : Prop) : OrderSaga :=
  { saga with
    pending := fun other => saga.pending other ∧ (other = fact → rest)
    handled := fun other => other = fact ∨ saga.handled other }

@[simps]
def accept (saga : OrderSaga) : OrderSaga :=
  { saga with agreed := True }

/-- The update of an order row that exists. -/
@[simps]
def saved (version : Version) (status : OrderStatus)
    (reason : Option CancellationReason) : Version :=
  { version with
    status := version.status.map fun _ => status
    reason := if version.status = none then version.reason else reason }

def save (saga : OrderSaga) :
    Option (OrderStatus × Option CancellationReason) → OrderSaga
  | none => saga
  | some (status, reason) => saga.commit (saved saga.current status reason)

/-- A fact owes a stock release for a rejected credit only. -/
def oweAfterFact (saga : OrderSaga) : Option SagaCommandKind → OrderSaga
  | none => saga
  | some .stockRelease => saga.oweRelease .creditRejected
  | some kind => saga.owe kind

def carryOut (saga : OrderSaga) (reaction : Reaction) : OrderSaga :=
  (saga.save reaction.saves).oweAfterFact reaction.owes

/-- What happened. -/
inductive Label
  | place
  | handle (fact : SagaFact) (read : Version)
  /-- The placed branch of an operator's cancel commits. -/
  | cancel (read : Version)
  /-- The dead-letter hook writes the order back. -/
  | firstPark (read : Version)
  /-- The other branches of an operator's cancel commit. -/
  | beginRelease
  | reserve (granted : Bool)
  | release (reason : StockReleaseReason)
  | despatch
  | hold (granted : Bool)
  | issue
  | pay
  | returnCredit

/-- The statuses an operator's cancel begins with a stock release in. -/
def ReleasesFirst (status : OrderStatus) : Prop :=
  status = .stockReserved ∨ status = .creditApproved ∨ status = .confirmed

inductive Move (saga : OrderSaga) : Label → OrderSaga → Prop
  | place (unknown : saga.current.status = none) :
      Move saga .place
        ((saga.commit ⟨some .placed, none, saga.current.accepted⟩).emit .orderPlaced)
  | handle (fact : SagaFact) (read : Version) (reaction : Reaction) (rest : Prop)
      (waits : saga.pending fact) (isPast : saga.past read)
      (reacts : react read fact = some reaction) (again : rest → Repeatable fact) :
      Move saga (.handle fact read) ((saga.consume fact rest).carryOut reaction)
  | cancel (read : Version) (status : OrderStatus) (isPast : saga.past read)
      (isStatus : read.status = some status) (cancellable : status.IsCancellable) :
      Move saga (.cancel read)
        (saga.commit (saved saga.current .cancelled (some .operatorCancelled))).accept
  | firstPark (read : Version) (status : OrderStatus) (isPast : saga.past read)
      (isStatus : read.status = some status) :
      Move saga (.firstPark read)
        (saga.commit (saved saga.current status read.reason))
  | beginRelease (read : Version) (status : OrderStatus) (isPast : saga.past read)
      (isStatus : read.status = some status) (releases : ReleasesFirst status)
      (first : ¬ saga.owed .stockRelease) :
      Move saga .beginRelease
        ((saga.commit { saga.current with accepted := true }).oweRelease
          .orderCancelled).accept
  | beginReleaseAgain (read : Version) (status : OrderStatus)
      (isPast : saga.past read) (isStatus : read.status = some status)
      (releases : ReleasesFirst status) (owed : saga.owed .stockRelease) :
      Move saga .beginRelease saga.accept
  | reserved (owed : saga.owed .stockReserve) (first : saga.stock = none) :
      Move saga (.reserve true)
        ({ saga with stock := some .reserved }.emit .stockReserved)
  | stockRejected (owed : saga.owed .stockReserve) (first : saga.stock = none) :
      Move saga (.reserve false) (saga.emit .stockRejected)
  | released (reason : StockReleaseReason) (owed : saga.releaseFor reason)
      (held : saga.stock = some .reserved) :
      Move saga (.release reason)
        ({ saga with stock := some .released }.emit (.stockReleased reason))
  | despatched (owed : saga.owed .despatchCreate)
      (held : saga.stock = some .reserved) :
      Move saga .despatch
        ({ saga with stock := some .consumed }.emit .orderDespatched)
  | approved (owed : saga.owed .creditHold) (first : saga.credit = .unheld) :
      Move saga (.hold true) ({ saga with credit := .held }.emit .creditApproved)
  | creditRejected (owed : saga.owed .creditHold) (first : saga.credit = .unheld) :
      Move saga (.hold false) (saga.emit .creditRejected)
  | issued (owed : saga.owed .invoiceIssue) (held : saga.credit = .held) :
      Move saga .issue ({ saga with credit := .invoiced }.emit .invoiceIssued)
  | paid (invoiced : saga.credit = .invoiced) :
      Move saga .pay
        (({ saga with credit := .paid }.emit .paymentReceived).emit
          (.creditReleased .invoicePaid))
  | paidReturned (invoiced : saga.credit = .invoicedReturned) :
      Move saga .pay ({ saga with credit := .paidReturned }.emit .paymentReceived)
  | returned (owed : saga.owed .creditRelease)
      (something : saga.credit = .held ∨ saga.credit = .invoiced) :
      Move saga .returnCredit
        ({ saga with credit := OrderCredit.returnedFrom saga.credit }.emit
          (.creditReleased .orderCancelled))

end OrderSaga

end OrderToCash.Saga
