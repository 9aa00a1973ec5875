import OrderToCash.Contracts.Facts

/-!
# Order statuses and Table T-1

The closed status set of the order state machine and its transition table as
data.  `findTransition` is the lookup every command method of the aggregate
goes through; the creation row has no source status and is kept apart.
-/

namespace OrderToCash.Orders

open OrderToCash.Contracts

inductive OrderStatus
  | placed
  | stockReserved
  | creditApproved
  | confirmed
  | despatched
  | invoiced
  | paid
  | completed
  | cancelled
deriving DecidableEq, Repr

/-- One row of Table T-1, with the fact Orders emits on it. -/
structure OrderTransition where
  source : Option OrderStatus
  target : OrderStatus
  emits : Option EventType
deriving DecidableEq, Repr

/-- Table T-1, the creation row first. -/
def orderTransitions : List OrderTransition :=
  [ ⟨none, .placed, some .orderPlaced⟩,
    ⟨some .placed, .stockReserved, none⟩,
    ⟨some .stockReserved, .creditApproved, none⟩,
    ⟨some .creditApproved, .confirmed, some .orderConfirmed⟩,
    ⟨some .confirmed, .despatched, none⟩,
    ⟨some .despatched, .invoiced, none⟩,
    ⟨some .invoiced, .paid, none⟩,
    ⟨some .paid, .completed, some .orderCompleted⟩,
    ⟨some .placed, .cancelled, some .orderCancelled⟩,
    ⟨some .stockReserved, .cancelled, some .orderCancelled⟩,
    ⟨some .creditApproved, .cancelled, some .orderCancelled⟩,
    ⟨some .confirmed, .cancelled, some .orderCancelled⟩ ]

/-- The row of Table T-1 for an edge between two statuses. -/
def findTransition (source target : OrderStatus) : Option OrderTransition :=
  orderTransitions.find? fun transition =>
    transition.source = some source ∧ transition.target = target

/-- `target` follows `source` along one edge of Table T-1. -/
def Edge (source target : OrderStatus) : Prop :=
  (findTransition source target).isSome = true

instance (source target : OrderStatus) : Decidable (Edge source target) :=
  inferInstanceAs (Decidable (_ = true))

/-- The statuses an order can still be cancelled in. -/
def OrderStatus.IsCancellable (status : OrderStatus) : Prop :=
  Edge status .cancelled

instance (status : OrderStatus) : Decidable status.IsCancellable :=
  inferInstanceAs (Decidable (Edge _ _))

/-- Completed and cancelled orders rest for good. -/
def OrderStatus.IsTerminal (status : OrderStatus) : Prop :=
  status = .completed ∨ status = .cancelled

instance (status : OrderStatus) : Decidable status.IsTerminal :=
  inferInstanceAs (Decidable (_ ∨ _))

theorem OrderStatus.isCancellable_iff (status : OrderStatus) :
    status.IsCancellable ↔
      status = .placed ∨ status = .stockReserved ∨
        status = .creditApproved ∨ status = .confirmed := by
  cases status <;> decide

/-- No edge of Table T-1 leaves a terminal status. -/
theorem not_edge_of_isTerminal {source target : OrderStatus}
    (terminal : source.IsTerminal) : ¬ Edge source target := by
  rcases terminal with rfl | rfl <;> cases target <;> decide

end OrderToCash.Orders
