import OrderToCash.Orders.Transactions

/-!
# The committed status of an order

No read of an order asks for a lock, and a save updates whatever row the key
names by then.  A transaction whose order moved on between its read and its
commit therefore writes a status the state machine never produced.  This module
says which commits keep the committed statuses on Table T-1, and exhibits the
interleaving that leaves `cancelled`.
-/

namespace OrderToCash.Orders

open OrderToCash.Checked
open OrderToCash.Contracts
open OrderToCash.Kernel
open OrderToCash.Transition

/-- The position of a status along the state machine; every edge climbs. -/
def OrderStatus.rank : OrderStatus → Nat
  | .placed => 0
  | .stockReserved => 1
  | .creditApproved => 2
  | .confirmed => 3
  | .despatched => 4
  | .invoiced => 5
  | .paid => 6
  | .completed => 7
  | .cancelled => 8

/-- How one save may move the committed status: not at all, along an edge of
Table T-1, or along the two edges a credit approval walks in one save. -/
def CommittedMove (before after : OrderStatus) : Prop :=
  after = before ∨ Edge before after ∨
    (before = .stockReserved ∧ after = .confirmed)

instance (before after : OrderStatus) : Decidable (CommittedMove before after) :=
  inferInstanceAs (Decidable (_ ∨ _ ∨ _))

theorem CommittedMove.eq_or_rank_lt {before after : OrderStatus}
    (moved : CommittedMove before after) :
    after = before ∨ before.rank < after.rank := by
  revert moved
  cases before <;> cases after <;> decide

theorem CommittedMove.eq_of_isTerminal {before after : OrderStatus}
    (moved : CommittedMove before after) (terminal : before.IsTerminal) :
    after = before := by
  revert moved
  rcases terminal with rfl | rfl <;> cases after <;> decide

/-- The transaction is the dead-letter hook's. -/
def OrdersTransaction.isFirstPark : OrdersTransaction → Bool
  | .onFirstPark _ _ => true
  | _ => false

/-- The action commits the transaction of the dead-letter hook. -/
def OrdersSystem.commitsFirstPark (system : OrdersSystem) : OrdersAction → Bool
  | .commit index =>
      system.openTransactions[index]?.any fun opened => opened.work.isFirstPark
  | _ => false

/-- What one action may do to the committed status of an order: create it as
`placed`, or move it along Table T-1, never out of a terminal status and never
from the dead-letter hook. -/
def StatusMoves (order : OrderNumber) (before : OrdersSystem)
    (action : OrdersAction) (after : OrdersSystem) : Prop :=
  (before.db.statusOf order = none →
      ∀ created ∈ after.db.statusOf order, created = .placed) ∧
    ∀ current ∈ before.db.statusOf order,
      ∃ next ∈ after.db.statusOf order,
        CommittedMove current next ∧
          (current.IsTerminal → next = current) ∧
          (before.commitsFirstPark action = true → next = current)

instance (order : OrderNumber) (before : OrdersSystem) (action : OrdersAction)
    (after : OrdersSystem) : Decidable (StatusMoves order before action after) :=
  inferInstanceAs (Decidable (_ ∧ _))

/-! ## The condition on a commit -/

/-- The statuses an order may have advanced to without the fact's own advance
taking it off Table T-1 again. -/
def alreadyAdvanced : EventType → List OrderStatus
  | .stockReserved => [.stockReserved]
  | .creditApproved => [.creditApproved, .confirmed]
  | .orderDespatched => [.despatched]
  | .invoiceIssued => [.invoiced]
  | .paymentReceived => [.paid]
  | .creditReleased => [.completed]
  | _ => []

/-- The order may have the status `current` when the transaction commits: the
status it read, or one its own step leads into Table T-1 from all the same. -/
def OpenTransaction.AdmitsCurrent (opened : OpenTransaction)
    (current : OrderStatus) : Prop :=
  match opened.snapshot.orders opened.work.order with
  | none => True
  | some read =>
      current = read.status ∨
        match opened.work with
        | .onFirstPark _ _ => False
        | .cancelPlaced _ =>
            read.status.IsCancellable →
              current.IsCancellable ∨ current = .cancelled
        | .handleFact envelope _ =>
            LateForAcceptedOperatorCancel opened.snapshot read envelope ∨
              match stepForStatus envelope.eventType read.status with
              | some (.advance _ _ _) =>
                  current ∈ alreadyAdvanced envelope.eventType
              | some (.cancel _ _ _) =>
                  current.IsCancellable ∨ current = .cancelled
              | _ => True

/-- The action commits no transaction on the order, or one that admits the
order's status of that moment. -/
def CommitsAdmitted (order : OrderNumber) (system : OrdersSystem)
    (action : OrdersAction) : Prop :=
  match action with
  | .commit index =>
      match system.openTransactions[index]? with
      | none => True
      | some opened =>
          opened.work.order = order →
            ∀ current ∈ system.db.statusOf order, opened.AdmitsCurrent current
  | _ => True

/-! ## What a commit saves -/

/-- The status a transaction saves, from the row it read. -/
inductive SavesStatus (opened : OpenTransaction) (read : OrderProps) :
    OrderStatus → Prop
  | advance {envelope : Envelope} {sourceTopic : Topic}
      {precondition : OrderStatus} {apply : Order → Except OrderError Order}
      {commandAfter : Option SagaCommandKind}
      (work : opened.work = .handleFact envelope sourceTopic)
      (onTime : ¬ LateForAcceptedOperatorCancel opened.snapshot read envelope)
      (step : stepForStatus envelope.eventType read.status =
        some (.advance precondition apply commandAfter)) :
      SavesStatus opened read (advancedStatus envelope.eventType read.status)
  | cancel {envelope : Envelope} {sourceTopic : Topic}
      {precondition : OrderStatus}
      {mapped : Fact → Except HandlerError CancellationReason}
      {compensationSteps : Envelope → List CompensationStep}
      (work : opened.work = .handleFact envelope sourceTopic)
      (onTime : ¬ LateForAcceptedOperatorCancel opened.snapshot read envelope)
      (step : stepForStatus envelope.eventType read.status =
        some (.cancel precondition mapped compensationSteps))
      (cancellable : read.status.IsCancellable) :
      SavesStatus opened read .cancelled
  | cancelPlaced {order : OrderNumber} (work : opened.work = .cancelPlaced order)
      (cancellable : read.status.IsCancellable) :
      SavesStatus opened read .cancelled
  | firstPark {order : OrderNumber} {failure : SagaFailureInput}
      (work : opened.work = .onFirstPark order failure) :
      SavesStatus opened read read.status

/-- A commit changes no status, whatever the order's status is, or saves the
status its transaction decided. -/
def CommitEffect (opened : OpenTransaction) (before after : OrdersDb) : Prop :=
  ((∀ current, opened.AdmitsCurrent current) ∧
      ∀ order, after.statusOf order = before.statusOf order) ∨
    ∃ read saved, opened.snapshot.orders opened.work.order = some read ∧
      SavesStatus opened read saved ∧
      ∀ order, after.statusOf order =
        if order = opened.work.order then
          (before.statusOf order).map fun _ => saved
        else
          before.statusOf order

theorem reconstitute_status {row : OrderProps} {loaded : Order}
    (rebuilt : Order.reconstitute row = .ok loaded) :
    loaded.props.orderReference = row.orderReference ∧
      loaded.props.status = row.status ∧
      loaded.props.cancellationReason = row.cancellationReason := by
  rcases Order.reconstitute_eq_ok rebuilt with ⟨totals, _, rfl⟩
  exact ⟨rfl, rfl, rfl⟩

/-- Lateness is decided by what rebuilding an order keeps. -/
theorem late_iff_of_reconstitute {db : OrdersDb} {row : OrderProps}
    {loaded : Order} {envelope : Envelope}
    (rebuilt : Order.reconstitute row = .ok loaded) :
    LateForAcceptedOperatorCancel db loaded.props envelope ↔
      LateForAcceptedOperatorCancel db row envelope := by
  have kept := reconstitute_status rebuilt
  unfold LateForAcceptedOperatorCancel
  rw [kept.1, kept.2.1, kept.2.2]

/-- The effect of a save on the committed statuses, where the saved order is
the one the transaction loaded. -/
theorem commitEffect_of_save {opened : OpenTransaction} {before middle : OrdersDb}
    {read : OrderProps} {loaded saved : Order} (keyed : opened.snapshot.Keyed)
    (stored : opened.snapshot.orders opened.work.order = some read)
    (rebuilt : Order.reconstitute read = .ok loaded)
    (sameReference : saved.props.orderReference = loaded.props.orderReference)
    (saves : SavesStatus opened read saved.props.status)
    (sameOrders : middle.orders = before.orders) :
    CommitEffect opened before (middle.save saved) := by
  refine Or.inr ⟨read, saved.props.status, stored, saves, fun order => ?_⟩
  have reference : saved.props.orderReference = opened.work.order := by
    rw [sameReference, (reconstitute_status rebuilt).1]
    exact keyed _ _ stored
  rw [OrdersDb.save_statusOf, reference]
  simp [OrdersDb.statusOf, sameOrders]

theorem commitEffect_of_factWrites {opened : OpenTransaction}
    {before middle : OrdersDb} {envelope : Envelope} {sourceTopic : Topic}
    {writes : List OrdersWrite} (keyed : opened.snapshot.Keyed)
    (work : opened.work = .handleFact envelope sourceTopic)
    (sameOrders : middle.orders = before.orders)
    (written : FactWrites opened.snapshot envelope sourceTopic writes) :
    CommitEffect opened before (applyWrites middle writes) := by
  have workOrder : opened.work.order = envelope.correlationId := by
    rw [work]
    rfl
  cases written with
  | unknownOrder ignored absent marker =>
      refine Or.inl ⟨fun current => ?_, fun order => ?_⟩
      · simp [OpenTransaction.AdmitsCurrent, workOrder, absent]
      · simp [applyWrites, OrdersWrite.apply, OrdersDb.statusOf, sameOrders]
  | late loaded payload found isLate built =>
      rcases findById_eq_ok_some found with ⟨read, stored, rebuilt⟩
      have lateOnRow := (late_iff_of_reconstitute rebuilt).mp isLate
      refine Or.inl ⟨fun current => ?_, fun order => ?_⟩
      · unfold OpenTransaction.AdmitsCurrent
        rw [workOrder]
        simp only [stored, work]
        exact Or.inr (Or.inl lateOnRow)
      · simp [applyWrites, OrdersWrite.apply, OrdersDb.statusOf, sameOrders]
  | preconditionUnmet loaded ignored found onTime noStep sameFact marker =>
      rcases findById_eq_ok_some found with ⟨read, stored, rebuilt⟩
      rw [(reconstitute_status rebuilt).2.1] at noStep
      refine Or.inl ⟨fun current => ?_, fun order => ?_⟩
      · unfold OpenTransaction.AdmitsCurrent
        rw [workOrder]
        simp only [stored, work, noStep]
        exact Or.inr (Or.inr trivial)
      · simp [applyWrites, OrdersWrite.apply, OrdersDb.statusOf, sameOrders]
  | advance loaded saved precondition apply found onTime step savedProps =>
      rcases findById_eq_ok_some found with ⟨read, stored, rebuilt⟩
      have kept := reconstitute_status rebuilt
      refine commitEffect_of_save keyed (workOrder ▸ stored) rebuilt
        (by rw [savedProps]) ?_ sameOrders
      rw [savedProps, kept.2.1]
      exact SavesStatus.advance work
        (fun late => onTime ((late_iff_of_reconstitute rebuilt).mpr late))
        (kept.2.1 ▸ step)
  | advanceOwing loaded saved precondition apply kind payload found onTime step
      savedProps built =>
      rcases findById_eq_ok_some found with ⟨read, stored, rebuilt⟩
      have kept := reconstitute_status rebuilt
      have effect : CommitEffect opened before (middle.save saved) := by
        refine commitEffect_of_save keyed (workOrder ▸ stored) rebuilt
          (by rw [savedProps]) ?_ sameOrders
        rw [savedProps, kept.2.1]
        exact SavesStatus.advance work
          (fun late => onTime ((late_iff_of_reconstitute rebuilt).mpr late))
          (kept.2.1 ▸ step)
      simpa [CommitEffect, applyWrites, OrdersWrite.apply, OrdersDb.statusOf]
        using effect
  | cancel loaded saved precondition mapped compensationSteps reason found onTime
      step reasonMapped cancelled =>
      rcases findById_eq_ok_some found with ⟨read, stored, rebuilt⟩
      have kept := reconstitute_status rebuilt
      rcases Order.cancel_eq_ok cancelled with ⟨cancellable, _, _, savedProps⟩
      refine commitEffect_of_save keyed (workOrder ▸ stored) rebuilt
        (by rw [savedProps]) ?_ sameOrders
      rw [savedProps]
      exact SavesStatus.cancel work
        (fun late => onTime ((late_iff_of_reconstitute rebuilt).mpr late))
        (kept.2.1 ▸ step) (kept.2.1 ▸ cancellable)

/-- Every commit has one of the two effects, and leaves the open transactions
alone. -/
theorem effect_of_commits {system system' : OrdersSystem}
    {opened : OpenTransaction} (keyed : opened.snapshot.Keyed)
    (committed : OrdersSystem.Commits system opened system') :
    CommitEffect opened system.db system'.db ∧
      system'.openTransactions = system.openTransactions := by
  cases committed with
  | handleFact envelope sourceTopic factWork work fresh handled =>
      exact ⟨commitEffect_of_factWrites keyed work rfl (handleFact_writes handled), rfl⟩
  | cancelPlaced order writes outcome work decided =>
      refine ⟨?_, rfl⟩
      rcases cancelPlaced_writes decided with
        ⟨rfl, _, absent | ⟨loaded, found, notCancellable⟩⟩ |
          ⟨loaded, saved, found, cancelled, rfl, _⟩
      · refine Or.inl ⟨fun current => ?_, fun _ => rfl⟩
        simp [OpenTransaction.AdmitsCurrent, work, OrdersTransaction.order,
          findById_eq_ok_none absent]
      · rcases findById_eq_ok_some found with ⟨read, stored, rebuilt⟩
        rw [(reconstitute_status rebuilt).2.1] at notCancellable
        refine Or.inl ⟨fun current => ?_, fun _ => rfl⟩
        simp [OpenTransaction.AdmitsCurrent, work, OrdersTransaction.order,
          stored, notCancellable]
      · rcases findById_eq_ok_some found with ⟨read, stored, rebuilt⟩
        rcases Order.cancel_eq_ok cancelled with
          ⟨cancellable, _, _, savedProps⟩
        have kept := reconstitute_status rebuilt
        refine commitEffect_of_save keyed ?_ rebuilt (by rw [savedProps]) ?_
          rfl
        · rw [work]
          exact stored
        · rw [savedProps]
          exact SavesStatus.cancelPlaced work (kept.2.1 ▸ cancellable)
  | onFirstPark order failure writes work decided =>
      refine ⟨?_, rfl⟩
      rcases onFirstPark_writes decided with
        ⟨rfl, absent⟩ | ⟨loaded, found, rfl⟩
      · refine Or.inl ⟨fun current => ?_, fun _ => rfl⟩
        simp [OpenTransaction.AdmitsCurrent, work, OrdersTransaction.order,
          findById_eq_ok_none absent]
      · rcases findById_eq_ok_some found with ⟨read, stored, rebuilt⟩
        have kept := reconstitute_status rebuilt
        refine commitEffect_of_save keyed ?_ rebuilt rfl ?_ rfl
        · rw [work]
          exact stored
        · rw [Order.recordSagaFailure_props, kept.2.1]
          exact SavesStatus.firstPark work

/-! ## When a save keeps to the table -/

/-- Over the statuses at or above the one an advance starts from, the advance
keeps to Table T-1 exactly where it is fresh or already made. -/
theorem advance_move_iff {eventType : EventType} {read current : OrderStatus}
    {precondition : OrderStatus} {apply : Order → Except OrderError Order}
    {commandAfter : Option SagaCommandKind}
    (step : stepForStatus eventType read =
      some (.advance precondition apply commandAfter))
    (climbed : read.rank ≤ current.rank) :
    CommittedMove current (advancedStatus eventType read) ↔
      current = read ∨ current ∈ alreadyAdvanced eventType := by
  have found := mem_of_stepForStatus step
  cases eventType <;>
    simp only [sagaSteps, List.mem_cons, List.not_mem_nil, or_false, reduceCtorEq,
      SagaStep.advance.injEq, false_or, or_self, false_and] at found
  all_goals
    simp only [SagaStep.precondition?, Option.some.injEq] at found
    rcases found with ⟨membership, rfl⟩
  case stockReleased =>
    rcases membership with ⟨rfl, _⟩ | ⟨rfl, _⟩ <;>
      revert climbed <;> cases current <;> decide
  all_goals
    rcases membership with ⟨rfl, _⟩
    revert climbed
    cases current <;> decide

/-- A cancellation keeps to Table T-1 exactly from the cancellable statuses and
from `cancelled` itself. -/
theorem cancel_move_iff (current : OrderStatus) :
    CommittedMove current .cancelled ↔
      current.IsCancellable ∨ current = .cancelled := by
  cases current <;> decide

/-- A save of the dead-letter hook changes nothing exactly when it is fresh;
any other save keeps to Table T-1 exactly when the commit admits the status of
that moment. -/
theorem savesStatus_moves_iff {opened : OpenTransaction} {read : OrderProps}
    {saved current : OrderStatus}
    (stored : opened.snapshot.orders opened.work.order = some read)
    (saves : SavesStatus opened read saved)
    (climbed : read.status.rank ≤ current.rank) :
    (CommittedMove current saved ∧ (opened.work.isFirstPark = true → saved = current)) ↔
      opened.AdmitsCurrent current := by
  unfold OpenTransaction.AdmitsCurrent
  rw [stored]
  cases saves with
  | advance work onTime step =>
      simp only [work, onTime, step, false_or, OrdersTransaction.isFirstPark,
        Bool.false_eq_true, false_implies, and_true]
      exact advance_move_iff step climbed
  | cancel work onTime step cancellable =>
      simp only [work, onTime, step, false_or, OrdersTransaction.isFirstPark,
        Bool.false_eq_true, false_implies, and_true, cancel_move_iff]
      constructor
      · exact Or.inr
      · rintro (rfl | admitted)
        · exact Or.inl cancellable
        · exact admitted
  | cancelPlaced work cancellable =>
      simp only [work, OrdersTransaction.isFirstPark, Bool.false_eq_true,
        false_implies, and_true, cancel_move_iff]
      constructor
      · exact fun admitted => Or.inr fun _ => admitted
      · rintro (rfl | admitted)
        · exact Or.inl cancellable
        · exact admitted cancellable
  | firstPark work =>
      simp only [work, or_false, OrdersTransaction.isFirstPark, true_implies]
      constructor
      · rintro ⟨_, same⟩
        exact same.symm
      · rintro rfl
        exact ⟨Or.inl rfl, rfl⟩

/-! ## The invariant of a run that keeps to the table -/

/-- Stored orders carry their key, in the database and in every snapshot, and
what an open transaction read of the order is behind the committed status. -/
structure OrdersSystem.ReadsBehind (system : OrdersSystem) (order : OrderNumber) :
    Prop where
  keyed : system.db.Keyed
  snapshotsKeyed : ∀ opened ∈ system.openTransactions, opened.snapshot.Keyed
  behind : ∀ opened ∈ system.openTransactions,
    ∀ read ∈ opened.snapshot.statusOf order,
      ∃ current ∈ system.db.statusOf order, read.rank ≤ current.rank

theorem OrdersSystem.ReadsBehind.initial (order : OrderNumber) :
    OrdersSystem.initial.ReadsBehind order :=
  { keyed := by
      intro key row stored
      cases stored
    snapshotsKeyed := by
      intro opened openedMem
      cases openedMem
    behind := by
      intro opened openedMem
      cases openedMem }

/-- The statuses a step leaves in place or climbs keep every read behind. -/
theorem OrdersSystem.ReadsBehind.of_climb {system system' : OrdersSystem}
    {order : OrderNumber} (reads : system.ReadsBehind order)
    (keyed : system'.db.Keyed)
    (climbs : ∀ current ∈ system.db.statusOf order,
      ∃ next ∈ system'.db.statusOf order, current.rank ≤ next.rank)
    (transactions : ∀ opened ∈ system'.openTransactions,
      opened ∈ system.openTransactions ∨ opened.snapshot = system.db) :
    system'.ReadsBehind order :=
  { keyed := keyed
    snapshotsKeyed := by
      intro opened openedMem
      rcases transactions opened openedMem with before | fresh
      · exact reads.snapshotsKeyed opened before
      · rw [fresh]
        exact reads.keyed
    behind := by
      intro opened openedMem read readMem
      rcases transactions opened openedMem with before | fresh
      · rcases reads.behind opened before read readMem with
          ⟨current, currentMem, behindCurrent⟩
        rcases climbs current currentMem with ⟨next, nextMem, climbed⟩
        exact ⟨next, nextMem, Nat.le_trans behindCurrent climbed⟩
      · rw [fresh] at readMem
        exact climbs read readMem }

theorem keyed_of_place {db : OrdersDb} {newId : Nat → UniqueId} {input : PlaceOrderInput}
    {created : Order} (form : StoredForm) (keyed : db.Keyed)
    (isCreated : Order.place newId input = .ok created) :
    (db.insert created form).Keyed ∧
      ∀ order, (db.insert created form).statusOf order =
        if order = input.orderReference then some .placed else db.statusOf order := by
  have spec := Order.place_eq_ok isCreated
  constructor
  · intro order row found
    by_cases same : order = created.props.orderReference
    · subst same
      simp only [OrdersDb.insert, Function.update_self, Option.some.injEq] at found
      exact found ▸ rfl
    · simp only [OrdersDb.insert, Function.update_of_ne same] at found
      exact keyed order row found
  · intro order
    unfold OrdersDb.statusOf
    rw [← spec.1]
    by_cases same : order = created.props.orderReference
    · subst same
      simp [OrdersDb.insert, spec.2.1]
    · simp [OrdersDb.insert, same]

theorem keyed_of_commits {system system' : OrdersSystem}
    {opened : OpenTransaction} (keyed : system.db.Keyed)
    (committed : OrdersSystem.Commits system opened system') :
    system'.db.Keyed := by
  cases committed with
  | handleFact envelope =>
      have recorded : (system.db.recordProcessed envelope.eventId).Keyed := keyed
      exact Keyed.applyWrites recorded _
  | cancelPlaced | onFirstPark => exact Keyed.applyWrites keyed _

/-- A status left in place moves as the table allows. -/
theorem statusMoves_of_eq {order : OrderNumber} {before after : OrdersSystem}
    {action : OrdersAction}
    (same : after.db.statusOf order = before.db.statusOf order) :
    StatusMoves order before action after := by
  constructor
  · intro absent created createdMem
    rw [same, absent] at createdMem
    cases createdMem
  · intro current currentMem
    exact ⟨current, same ▸ currentMem, Or.inl rfl, fun _ => rfl, fun _ => rfl⟩

/-- Wherever the reads of open transactions are behind, an action moves the
status along Table T-1 exactly when it commits what is admitted. -/
theorem statusMoves_iff_commitsAdmitted {order : OrderNumber}
    {system system' : OrdersSystem} {action : OrdersAction}
    (reads : system.ReadsBehind order)
    (stepped : OrdersSystem.step system action = some system') :
    StatusMoves order system action system' ↔
      CommitsAdmitted order system action := by
  rcases OrdersSystem.step_orders stepped with
    ⟨firstLineId, input, form, created, rfl, unknown, isCreated, _, rfl⟩ |
      ⟨index, opened, rfl, found, committed⟩ | ⟨sameOrders, notCommit, _⟩
  · refine iff_of_true ?_ trivial
    have effect := (keyed_of_place form reads.keyed isCreated).2 order
    by_cases same : order = input.orderReference
    · have absent : system.db.statusOf order = none := by
        simp [OrdersDb.statusOf, same, unknown]
      rw [if_pos same] at effect
      constructor
      · intro _ created createdMem
        rw [effect] at createdMem
        exact (Option.some.inj createdMem).symm
      · intro current currentMem
        rw [absent] at currentMem
        cases currentMem
    · rw [if_neg same] at effect
      exact statusMoves_of_eq effect
  · have openedMem : opened ∈ system.openTransactions :=
      List.mem_of_getElem? found
    have effect :=
      (effect_of_commits (reads.snapshotsKeyed opened openedMem) committed).1
    simp only [CommitsAdmitted, found]
    rcases effect with ⟨admitsAll, same⟩ | ⟨read, saved, stored, saves, effect⟩
    · exact iff_of_true (statusMoves_of_eq (same order))
        fun _ current _ => admitsAll current
    · have effectHere := effect order
      by_cases ofOrder : opened.work.order = order
      · subst ofOrder
        have readStatus : read.status ∈
            opened.snapshot.statusOf opened.work.order := by
          simp [OrdersDb.statusOf, stored]
        rcases reads.behind opened openedMem _ readStatus with
          ⟨current, currentMem, climbed⟩
        simp only [Option.mem_def] at currentMem
        simp only [if_true, currentMem, Option.map_some] at effectHere
        have moves := savesStatus_moves_iff stored saves climbed
        have commitsFirstPark :
            system.commitsFirstPark (.commit index) = opened.work.isFirstPark := by
          simp [OrdersSystem.commitsFirstPark, found]
        simp only [StatusMoves, currentMem, effectHere, Option.mem_def,
          Option.some.injEq, forall_eq', exists_eq_left', true_implies,
          reduceCtorEq, false_implies, true_and, commitsFirstPark, ← moves]
        constructor
        · rintro ⟨moved, _, firstPark⟩
          exact ⟨moved, firstPark⟩
        · rintro ⟨moved, firstPark⟩
          exact ⟨moved, moved.eq_of_isTerminal, firstPark⟩
      · rw [if_neg (Ne.symm ofOrder)] at effectHere
        exact iff_of_true (statusMoves_of_eq effectHere)
          fun same => absurd same ofOrder
  · refine iff_of_true (statusMoves_of_eq ?_) ?_
    · simp [OrdersDb.statusOf, sameOrders]
    · unfold CommitsAdmitted
      cases action <;> first
        | trivial
        | exact absurd rfl (notCommit _)

/-- An action that moves the status along Table T-1 keeps every read behind. -/
theorem readsBehind_step {order : OrderNumber} {system system' : OrdersSystem}
    {action : OrdersAction} (reads : system.ReadsBehind order)
    (stepped : OrdersSystem.step system action = some system')
    (moves : StatusMoves order system action system') :
    system'.ReadsBehind order := by
  have climbs : ∀ current ∈ system.db.statusOf order,
      ∃ next ∈ system'.db.statusOf order, current.rank ≤ next.rank := by
    intro current currentMem
    rcases moves.2 current currentMem with ⟨next, nextMem, moved, _⟩
    refine ⟨next, nextMem, ?_⟩
    rcases moved.eq_or_rank_lt with rfl | climbed
    · exact Nat.le_refl _
    · exact Nat.le_of_lt climbed
  rcases OrdersSystem.step_orders stepped with
    ⟨firstLineId, input, form, created, rfl, _, isCreated, _, rfl⟩ |
      ⟨index, opened, rfl, found, committed⟩ | ⟨sameOrders, _, transactions⟩
  · exact reads.of_climb (keyed_of_place form reads.keyed isCreated).1 climbs
      fun opened openedMem => Or.inl openedMem
  · have openedMem : opened ∈ system.openTransactions :=
      List.mem_of_getElem? found
    have keyed : system'.db.Keyed :=
      keyed_of_commits (by exact reads.keyed) committed
    refine reads.of_climb keyed climbs fun other otherMem => Or.inl ?_
    rw [(effect_of_commits (reads.snapshotsKeyed opened openedMem)
      committed).2] at otherMem
    exact List.mem_of_mem_eraseIdx otherMem
  · have keyed : system'.db.Keyed := by
      intro key row stored
      rw [sameOrders] at stored
      exact reads.keyed key row stored
    exact reads.of_climb keyed climbs transactions

/-- The committed statuses of an order move along Table T-1 in every step of a
run exactly when every transaction commits onto a status it admits. -/
theorem committedStatus_moves_iff (order : OrderNumber)
    (schedule : List OrdersAction) :
    EveryStep OrdersSystem.step (StatusMoves order) OrdersSystem.initial
        schedule ↔
      EveryStep OrdersSystem.step
        (fun system action _ => CommitsAdmitted order system action)
        OrdersSystem.initial schedule := by
  refine everyStep_congr (fun system => system.ReadsBehind order) ?_ ?_
    (OrdersSystem.ReadsBehind.initial order)
  · intro system action system' reads stepped
    exact statusMoves_iff_commitsAdmitted reads stepped
  · intro system action system' reads stepped moves
    exact readsBehind_step reads stepped moves

/-! ## A cancelled order brought back -/

/-- An order of one line. -/
def singleLineOrder : PlaceOrderInput :=
  { orderReference := ⟨1⟩
    retailerCode := "ret-0001"
    companyCode := "COM-0001"
    currency := "EUR"
    lines :=
      [ { productCode := "PRD-0001"
          description := "Widget"
          quantity := 2
          unitPrice := ⟨1500, .eur⟩
          lineDiscount := ⟨0, .eur⟩ } ]
    notes := none }

/-- The form the order is loaded in, its retailer spelled as in the table. -/
def singleLineForm (firstLineId : Nat) : StoredForm :=
  { retailerCode := "RET-0001"
    companyCode := "COM-0001"
    lines := createLines (fun index => ⟨firstLineId + index⟩) singleLineOrder.lines }

/-- The fact a placed order puts on its topic. -/
def orderPlacedDelivery : Envelope :=
  { eventId := ⟨.orders, 0⟩
    fact := .orderPlaced
      { orderReference := ⟨1⟩
        retailerCode := "ret-0001"
        companyCode := "COM-0001"
        currency := "EUR"
        lines :=
          [ { productCode := "PRD-0001"
              description := "Widget"
              quantity := 2
              unitPrice := 1500
              lineDiscount := 0 } ]
        initialAmount := 3000
        initialDiscount := 0
        totalAmount := 3000
        notes := none } }

/-- The operator cancels while the handler of `order.placed.v1` is open: the
cancellation commits, and then the handler writes back the `placed` it read. -/
def cancelDuringHandling : List OrdersAction :=
  [ .place 0 singleLineOrder (singleLineForm 0),
    .readForCancel ⟨1⟩ none,
    .actOnCancel 0,
    .beginFact orderPlacedDelivery .orders,
    .commit 0,
    .commit 0 ]

/-- The run exists, and it takes a cancelled order back to `placed`. -/
theorem cancelled_order_brought_back :
    ¬ (∀ (order : OrderNumber) (schedule : List OrdersAction),
      EveryStep OrdersSystem.step (fun _ _ _ => True) OrdersSystem.initial
          schedule →
        EveryStep OrdersSystem.step (StatusMoves order) OrdersSystem.initial
          schedule) := by
  intro claimed
  have runs : EveryStep OrdersSystem.step (fun _ _ _ => True)
      OrdersSystem.initial cancelDuringHandling := by
    decide
  exact absurd (claimed ⟨1⟩ cancelDuringHandling runs) (by decide)

end OrderToCash.Orders
