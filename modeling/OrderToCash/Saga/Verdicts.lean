import OrderToCash.Saga.Serial

/-!
# Verdicts on a reservation and on a hold

A rejection leaves no trace where it was decided, so a command that is carried
out again is decided afresh.  The conditions here are on what a step appends:
nothing that overturns a rejection, or no second verdict at all.
-/

namespace OrderToCash.Saga

open OrderToCash.Billing
open OrderToCash.Contracts
open OrderToCash.Fulfillment
open OrderToCash.Kernel
open OrderToCash.Log
open OrderToCash.Orders
open OrderToCash.Transition

namespace SagaSystem

/-- A fact of the order is in the outbox of its service. -/
def Emitted (system : SagaSystem) (order : OrderNumber) (fact : SagaFact) : Prop :=
  ∃ entry ∈ system.outbox fact.topic,
    entry.orderReference = order ∧ sagaFact? entry = some fact

instance (system : SagaSystem) (order : OrderNumber) (fact : SagaFact) :
    Decidable (system.Emitted order fact) :=
  inferInstanceAs (Decidable (∃ entry ∈ _, _))

/-- The action appends a fact of the order. -/
def Emits (system : SagaSystem) (order : OrderNumber) (action : SagaAction)
    (fact : SagaFact) : Prop :=
  ∃ entry ∈ system.appended action fact.topic,
    entry.orderReference = order ∧ sagaFact? entry = some fact

instance (system : SagaSystem) (order : OrderNumber) (action : SagaAction)
    (fact : SagaFact) : Decidable (system.Emits order action fact) :=
  inferInstanceAs (Decidable (∃ entry ∈ _, _))

/-- Nothing is granted that was rejected before. -/
def RejectionsStand (order : OrderNumber) : Guard SagaSystem SagaAction :=
  fun system action =>
    (system.Emits order action .stockReserved →
        ¬ system.Emitted order .stockRejected) ∧
      (system.Emits order action .creditApproved →
        ¬ system.Emitted order .creditRejected)

instance (order : OrderNumber) (system : SagaSystem) (action : SagaAction) :
    Decidable (RejectionsStand order system action) :=
  inferInstanceAs (Decidable (_ ∧ _))

end SagaSystem

variable {order : OrderNumber} {system system' : SagaSystem} {saga saga' : OrderSaga}
  {action : SagaAction} {label : OrderSaga.Label}

theorem Represents.emitted_iff_emitted (represents : Represents order system saga)
    (fact : SagaFact) : saga.emitted fact ↔ system.Emitted order fact :=
  represents.emitted_iff fact

/-- What is in an outbox stays there. -/
theorem emitted_step (represents : Represents order system saga)
    (stepped : SagaSystem.step system action = some system') {fact : SagaFact}
    (emitted : system.Emitted order fact) : system'.Emitted order fact := by
  rcases emitted with ⟨entry, entryMem, isFact⟩
  rcases List.mem_iff_getElem?.mp entryMem with ⟨position, found⟩
  exact ⟨entry, List.mem_of_getElem? (outbox_step represents stepped found), isFact⟩

/-- The action that explains a move appends what the move emits. -/
theorem Explains.emits (explained : Explains order system action label)
    {fact : SagaFact} (emits : label.fact? = some fact) :
    system.Emits order action fact := by
  have logged := explained.facts fact emits
  rcases List.mem_filterMap.mp logged with ⟨entry, entryMem, reads⟩
  exact ⟨entry, entryMem, read_eq_some.mp reads⟩

namespace OrderSaga

/-! ## What is rejected is not granted -/

/-- The move grants nothing that was rejected. -/
def RejectionStands (saga : OrderSaga) (label : Label) : Prop :=
  (label = .reserve true → ¬ saga.emitted .stockRejected) ∧
    (label = .hold true → ¬ saga.emitted .creditRejected)

/-- Neither command has been granted and rejected. -/
structure OneSided (saga : OrderSaga) : Prop where
  stock : saga.emitted .stockRejected → saga.stock = none
  credit : saga.emitted .creditRejected → saga.credit = .unheld

theorem OneSided.initial : initial.OneSided := by
  constructor <;> simp [OrderSaga.initial, emitted]

theorem OneSided.move (oneSided : saga.OneSided) (stands : saga.RejectionStands label)
    (moved : saga.Move label saga') : saga'.OneSided := by
  have ⟨stock, credit⟩ := oneSided
  cases moved with
  | handle fact read reaction rest waits =>
      have emitted_iff := emitted_handle waits rest reaction
      constructor
      · rw [emitted_iff, carryOut_stock]
        exact stock
      · rw [emitted_iff, carryOut_credit]
        exact credit
  | reserved owed first =>
      have notRejected := stands.1 rfl
      constructor
      · rw [emitted_emit]
        rintro (⟨⟨⟩⟩ | rejected)
        exact absurd rejected notRejected
      · rw [emitted_emit]
        rintro (⟨⟨⟩⟩ | rejected)
        exact credit rejected
  | approved owed first =>
      have notRejected := stands.2 rfl
      constructor
      · rw [emitted_emit]
        rintro (⟨⟨⟩⟩ | rejected)
        exact stock rejected
      · rw [emitted_emit]
        rintro (⟨⟨⟩⟩ | rejected)
        exact absurd rejected notRejected
  | _ =>
      constructor <;> simp [emitted] <;> grind [emitted]

end OrderSaga

/-- Where rejections stand, they do in the saga. -/
theorem Represents.rejectionStands (represents : Represents order system saga)
    (stands : SagaSystem.RejectionsStand order system action)
    (explained : Explains order system action label) : saga.RejectionStands label := by
  constructor
  · rintro rfl
    rw [represents.emitted_iff_emitted]
    exact stands.1 (explained.emits rfl)
  · rintro rfl
    rw [represents.emitted_iff_emitted]
    exact stands.2 (explained.emits rfl)

end OrderToCash.Saga
