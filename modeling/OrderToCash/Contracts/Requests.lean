import OrderToCash.Contracts.Facts

/-!
# Command requests and RPC outcomes

The payloads of the six saga commands and of a payment registration, and the
error codes a responder may answer with.
-/

namespace OrderToCash.Contracts

open OrderToCash.Kernel

structure StockReserveLine where
  productCode : String
  units : Quantity
deriving DecidableEq, Repr

structure StockReserveRequest where
  orderReference : OrderNumber
  retailerCode : String
  companyCode : String
  lines : List StockReserveLine
deriving DecidableEq, Repr

structure StockReleaseRequest where
  orderReference : OrderNumber
  reason : StockReleaseReason
deriving DecidableEq, Repr

structure DespatchCreateRequest where
  orderReference : OrderNumber
deriving DecidableEq, Repr

structure CreditHoldRequest where
  orderReference : OrderNumber
  retailerCode : String
  companyCode : String
  amount : Money
deriving DecidableEq, Repr

structure CreditReleaseRequest where
  orderReference : OrderNumber
  retailerCode : String
  companyCode : String
deriving DecidableEq, Repr

structure InvoiceIssueRequest where
  orderReference : OrderNumber
  retailerCode : String
  companyCode : String
  currency : String
  lines : List InvoiceLine
  discount : Int
deriving DecidableEq, Repr

/-- An optional field of a request: left out, `null`, or given. -/
inductive OptionalField (α : Type)
  | absent
  | null
  | given (value : α)
deriving DecidableEq, Repr

namespace OptionalField

/-- The value, where there is one. -/
def value? {α : Type} : OptionalField α → Option α
  | .given value => some value
  | _ => none

/-- The field is left out or has this value; `null` is neither. -/
def absentOr {α : Type} [DecidableEq α] (field : OptionalField α) (value : α) :
    Bool :=
  match field with
  | .absent => true
  | .null => false
  | .given other => other = value

/-- What is given is what it was compared with. -/
theorem eq_of_absentOr {α : Type} [DecidableEq α] {field : OptionalField α}
    {value given : α} (same : field.absentOr value = true)
    (isGiven : field.value? = some given) : given = value := by
  cases field with
  | absent => cases isGiven
  | null => cases isGiven
  | given other =>
      cases isGiven
      exact of_decide_eq_true same

end OptionalField

/-- A payment reference: its text, and the weight its column compares it by.  To
the column's collation texts are one that differ in case, in accents or in
trailing blanks only. -/
structure PaymentReference where
  text : String
  weight : String
deriving DecidableEq, Repr

/-- A remittance, naming the invoice by its identifier, its reference, or both. -/
structure PaymentRegisterRequest where
  invoiceId : OptionalField UniqueIdText
  invoiceReference : OptionalField Nat
  paymentReference : PaymentReference
  amount : Money
  source : PaymentSource
deriving DecidableEq, Repr

structure StockReplenishLine where
  productCode : String
  units : Quantity
deriving DecidableEq, Repr

structure StockReplenishRequest where
  companyCode : String
  lines : List StockReplenishLine
deriving DecidableEq, Repr

/-- The codes of an RPC error reply. -/
inductive RpcErrorCode
  | validationFailed
  | notFound
  | conflict
  | preconditionFailed
  | orderNotCancellable
  | stockUnavailable
  | invoiceNotPayable
  | paymentMismatch
  | domainError
  | internalError
  | unavailable
  | timeout
deriving DecidableEq, Repr

/-- The codes that end a command for good; the others are retried. -/
def RpcErrorCode.isTerminal : RpcErrorCode → Bool
  | .timeout | .unavailable | .internalError => false
  | _ => true

/-- What the dispatcher reads off a reply: a success, or an error code. -/
inductive RpcOutcome
  | success
  | failure (code : RpcErrorCode)
deriving DecidableEq, Repr

end OrderToCash.Contracts
