import OrderToCash.Orders.CommittedStatus
import OrderToCash.Saga.NeededFacts

/-!
# What Orders has told of an order

Orders tells of a confirmation, a completion and a cancellation.  Where its
transactions on an order are serial, each status is reached along the table and
told of when it is reached, so that what has been told of an order is read off its
status: a confirmation once and before anything else, a completion after it, and a
cancellation instead of a completion.
-/

namespace OrderToCash.Saga

open OrderToCash.Billing
open OrderToCash.Contracts
open OrderToCash.Fulfillment
open OrderToCash.Kernel
open OrderToCash.Orders
open OrderToCash.Transition

/-- What has been told of an order in this version. -/
def ToldBy (announced : List Announcement) (version : Version) : Prop :=
  match version.status with
  | none | some .placed | some .stockReserved | some .creditApproved => announced = []
  | some .confirmed | some .despatched | some .invoiced | some .paid =>
      announced = [(.confirmed, none)]
  | some .completed => announced = [(.confirmed, none), (.completed, none)]
  | some .cancelled =>
      announced = [(.cancelled, version.reason)] ∨
        announced = [(.confirmed, none), (.cancelled, version.reason)]

/-- The version is placed, or follows the one before along the table. -/
structure Follows (before after : Version) : Prop where
  created : before.status = none → ∀ status, after.status = some status → status = .placed
  moved : ∀ current, before.status = some current →
    ∃ next, after.status = some next ∧ CommittedMove current next
  reasonless : after.status ≠ some .cancelled → after.reason = none

/-- What a step tells of the version it leads to, it tells after what had been told
of the version before. -/
theorem ToldBy.step {announced new : List Announcement} {before after : Version}
    (toldBy : ToldBy announced before) (follows : Follows before after)
    (retells : Retells before after new) : ToldBy (announced ++ new) after := by
  cases retells with
  | stays status reason =>
      rw [List.append_nil]
      unfold ToldBy at toldBy ⊢
      rw [status, reason]
      exact toldBy
  | moves status isStatus climbs =>
      have reasonless := follows.reasonless
      rw [isStatus] at reasonless
      cases wasStatus : before.status with
      | none =>
          cases follows.created wasStatus status isStatus
          simp only [ToldBy, wasStatus] at toldBy
          simp [ToldBy, isStatus, toldBy, announcementOf]
      | some current =>
          rcases follows.moved current wasStatus with ⟨next, isNext, moved⟩
          rw [isStatus, Option.some.injEq] at isNext
          subst isNext
          have below := climbs current wasStatus
          cases current <;> cases status <;> simp only [ToldBy, wasStatus] at toldBy <;>
            first
              | exact absurd moved (by decide)
              | exact absurd below (by decide)
              | simp at reasonless; simp [ToldBy, isStatus, announcementOf, toldBy, reasonless]

variable {order : OrderNumber} {system system' : SagaSystem} {saga : OrderSaga}
  {action : SagaAction}

/-- What holds of an order in a serial run. -/
structure InSeries (order : OrderNumber) (system : SagaSystem) : Prop where
  represented : ∃ saga, Represents order system saga
  serialOn : system.orders.SerialOn order
  readsBehind : system.orders.ReadsBehind order
  toldBy : ToldBy (system.orders.db.announced order) (system.orders.db.version order)

theorem InSeries.initial (order : OrderNumber) (stock : StockCatalogue)
    (credits : CreditCatalogue) : InSeries order (SagaSystem.initial stock credits) where
  represented := ⟨OrderSaga.initial, represents_initial order stock credits⟩
  serialOn := .initial order
  readsBehind := .initial order
  toldBy := rfl

/-- A transaction that has read what there is admits it. -/
theorem commitsAdmitted_of_serialOn {orders : OrdersSystem}
    (serialOn : orders.SerialOn order) (action : OrdersAction) :
    CommitsAdmitted order orders action := by
  cases action with
  | commit index =>
      simp only [CommitsAdmitted]
      split
      · trivial
      · rename_i opened found
        intro ofOrder current isCurrent
        have same := congrArg Version.status
          (serialOn.current opened (List.mem_of_getElem? found) ofOrder)
        unfold OpenTransaction.AdmitsCurrent
        split
        · trivial
        · rename_i read stored
          left
          rw [ofOrder] at stored
          have isRead : opened.snapshot.statusOf order = some read.status := by
            simp [OrdersDb.statusOf, stored]
          exact Option.some.inj (isCurrent.symm.trans (same.symm.trans isRead))
  | _ => trivial

/-- A version of a represented order has a reason where it is cancelled only. -/
theorem Represents.reasonless (represents : Represents order system saga)
    (notCancelled : (system.orders.db.version order).status ≠ some .cancelled) :
    (system.orders.db.version order).reason = none := by
  have isTrue := represents.coherent.past _ represents.coherent.current
  rw [represents.orders.tables.current] at isTrue
  cases isStatus : (system.orders.db.version order).status with
  | none => exact isTrue.unplaced isStatus
  | some status =>
      apply (isTrue.standsFor status isStatus).reasonless
      rintro rfl
      exact notCancelled isStatus

theorem InSeries.step (inSeries : InSeries order system)
    (serial : SagaSystem.Serial order system action)
    (stepped : SagaSystem.step system action = some system') : InSeries order system' := by
  rcases inSeries.represented with ⟨saga, represents⟩
  have serialOn := serialOn_step represents serial inSeries.serialOn stepped
  have represented : ∃ saga', Represents order system' saga' := by
    rcases represents_step represents stepped with same | ⟨_, saga', _, _, after⟩
    · exact ⟨saga, same⟩
    · exact ⟨saga', after⟩
  rcases serviceStep_orders stepped with same | ⟨ordersAction, rfl, ordersStepped⟩
  · exact
      { represented := represented
        serialOn := serialOn
        readsBehind := by
          rw [same]
          exact inSeries.readsBehind
        toldBy := by
          rw [same]
          exact inSeries.toldBy }
  · have moves := (statusMoves_iff_commitsAdmitted inSeries.readsBehind ordersStepped).mpr
      (commitsAdmitted_of_serialOn inSeries.serialOn ordersAction)
    have retells : RetellsIn order system.orders.db system'.orders.db := by
      apply retellsIn_step represents.orders.underWay.keyed _ ordersStepped
      rintro opened openedMem rfl
      exact inSeries.serialOn.current opened openedMem rfl
    rcases retells with ⟨new, grown, retells⟩
    rcases represented with ⟨saga', represents'⟩
    have follows : Follows (system.orders.db.version order)
        (system'.orders.db.version order) := by
      constructor
      · exact fun absent status isStatus => moves.1 absent status isStatus
      · intro current isCurrent
        rcases moves.2 current isCurrent with ⟨next, isNext, moved, _⟩
        exact ⟨next, isNext, moved⟩
      · exact represents'.reasonless
    exact
      { represented := ⟨saga', represents'⟩
        serialOn := serialOn
        readsBehind := readsBehind_step inSeries.readsBehind ordersStepped moves
        toldBy := by
          rw [grown]
          exact inSeries.toldBy.step follows retells }

/-- In every serial run what Orders has told of an order is what its status says: the
confirmation of an order that got past its approval, then its completion or its
cancellation with the reason in its row, each once. -/
theorem announcements_follow_status {stock : StockCatalogue} {credits : CreditCatalogue}
    (reached : Reachable SagaSystem.step (SagaSystem.Serial order)
      (SagaSystem.initial stock credits) system) :
    ToldBy (system.orders.db.announced order) (system.orders.db.version order) := by
  suffices inSeries : InSeries order system from inSeries.toldBy
  induction reached with
  | refl => exact .initial order stock credits
  | tail _ serial stepped inductionHypothesis => exact inductionHypothesis.step serial stepped

/-- A run in which a confirmed order is completed. -/
theorem completed_order_announced :
    ∃ system, Reachable SagaSystem.step (SagaSystem.Serial ⟨1⟩)
        (SagaSystem.initial FulfillmentSystem.twoProducts tenThousandLimit) system ∧
      system.orders.db.statusOf ⟨1⟩ = some .completed ∧
        ToldBy (system.orders.db.announced ⟨1⟩) (system.orders.db.version ⟨1⟩) := by
  have ran : (execute (choosing SagaSystem.step)
      (fun state choose => decide (SagaSystem.Serial ⟨1⟩ state (choose state)))
      (SagaSystem.initial FulfillmentSystem.twoProducts tenThousandLimit)
      paidInTheEnd).map (fun system => system.orders.db.statusOf ⟨1⟩) =
      some (some .completed) := by
    decide +kernel
  rcases Option.map_eq_some_iff.mp ran with ⟨system, executed, completed⟩
  have reached := reachable_of_choices executed
  exact ⟨system, reached, completed, announcements_follow_status reached⟩

end OrderToCash.Saga
