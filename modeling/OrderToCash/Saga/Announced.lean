import OrderToCash.Orders.Announcements
import OrderToCash.Saga.OrdersSide

/-!
# What the outbox of Orders tells of an order

Where a transaction reads what there is when it commits, every step of Orders
tells of the status it moves an order to, and the facts told so far agree with
the order as it stands.
-/

namespace OrderToCash.Orders

open OrderToCash.Contracts
open OrderToCash.Kernel
open OrderToCash.Saga

variable {order : OrderNumber}

/-- What the outbox tells of an order. -/
def OrdersDb.announced (db : OrdersDb) (order : OrderNumber) : List Announcement :=
  (db.outbox.filter fun fact => fact.orderReference = order).filterMap announced?

/-- What a step tells of an order that it moves, or leaves, to a version. -/
inductive Retells (before after : Version) : List Announcement → Prop
  | stays (status : after.status = before.status) (reason : after.reason = before.reason) :
      Retells before after []
  | moves (status : OrderStatus) (isStatus : after.status = some status)
      (climbs : ∀ old, before.status = some old → old.rank < status.rank) :
      Retells before after (announcementOf after.reason status)

/-- What a database tells more than another, and the order's version in it. -/
def RetellsIn (order : OrderNumber) (db db' : OrdersDb) : Prop :=
  ∃ new, db'.announced order = db.announced order ++ new ∧
    Retells (db.version order) (db'.version order) new

/-- A database with the same orders and outbox tells nothing. -/
theorem RetellsIn.same {db db' : OrdersDb} (orders : db'.orders = db.orders)
    (outbox : db'.outbox = db.outbox) : RetellsIn order db db' := by
  refine ⟨[], ?_, .stays ?_ ?_⟩
  · simp [OrdersDb.announced, outbox]
  · simp [OrdersDb.version, OrdersDb.statusOf, orders]
  · simp [OrdersDb.version, orders]

/-- Facts appended for an order tell what they do of it. -/
theorem announced_append {db db' : OrdersDb} {new : List Fact} {reference : OrderNumber}
    (appended : db'.outbox = db.outbox ++ new)
    (ofOrder : ∀ fact ∈ new, fact.orderReference = reference) :
    db'.announced order =
      db.announced order ++ if reference = order then new.filterMap announced? else [] := by
  unfold OrdersDb.announced
  rw [appended, List.filter_append, List.filterMap_append]
  congr 1
  by_cases same : reference = order
  · rw [if_pos same, List.filter_eq_self.mpr]
    intro fact factMem
    rw [ofOrder fact factMem]
    exact decide_eq_true same
  · rw [if_neg same, List.filter_eq_nil_iff.mpr]
    · rfl
    · intro fact factMem
      rw [ofOrder fact factMem]
      simpa using same

/-- A save from a row that is current tells of where it moves the order. -/
theorem RetellsIn.save {db db' : OrdersDb} {saved loaded : Order}
    (announces : saved.Announces loaded.props)
    (current : saved.props.orderReference = order →
      db.statusOf order = some loaded.props.status ∧
        (db.version order).reason = loaded.props.cancellationReason)
    (orders : db'.orders = (db.save saved).orders)
    (outbox : db'.outbox = (db.save saved).outbox) : RetellsIn order db db' := by
  have told := @announced_append order _ _ _ _ outbox announces.ofOrder
  by_cases ofOrder : saved.props.orderReference = order
  · rcases current ofOrder with ⟨isStatus, isReason⟩
    rw [if_pos ofOrder] at told
    have after := @OrdersDb.save_version db order saved ofOrder
    have status : (db'.version order).status = some saved.props.status := by
      have saves := congrArg Version.status after
      simp only [OrdersDb.version, OrdersDb.statusOf, orders] at saves isStatus ⊢
      rw [saves]
      simp [OrderSaga.saved, isStatus]
    have reason : (db'.version order).reason = saved.props.cancellationReason := by
      have saves := congrArg Version.reason after
      simp only [OrdersDb.version, OrdersDb.statusOf, orders] at saves isStatus ⊢
      rw [saves]
      simp [OrderSaga.saved, isStatus]
    refine ⟨_, told, ?_⟩
    by_cases stays : saved.props.status = loaded.props.status
    · rcases announces.stays stays with ⟨silent, sameReason⟩
      rw [silent]
      apply Retells.stays
      · rw [status, stays]
        exact isStatus.symm
      · rw [reason, isReason, sameReason]
    · rcases announces.moves stays with ⟨climbs, tells⟩
      rw [tells, ← reason]
      apply Retells.moves _ status
      intro old isOld
      have same := isOld.symm.trans isStatus
      cases same
      exact climbs
  · rw [if_neg ofOrder] at told
    refine ⟨[], told, ?_⟩
    have after := @OrdersDb.save_version_of_other db order saved ofOrder
    apply Retells.stays
    · have saves := congrArg Version.status after
      simp only [OrdersDb.version, OrdersDb.statusOf, orders] at saves ⊢
      exact saves
    · have saves := congrArg Version.reason after
      simp only [OrdersDb.version, orders] at saves ⊢
      exact saves

/-- What a transaction read of its order is there still. -/
def OpenTransaction.Current (opened : OpenTransaction) (db : OrdersDb) : Prop :=
  opened.snapshot.version opened.work.order = db.version opened.work.order

/-- A loaded row has the version's status and reason. -/
theorem version_of_findById {db : OrdersDb} (keyed : db.Keyed) {loaded : Order}
    (found : db.findById order = .ok (some loaded)) :
    db.statusOf order = some loaded.props.status ∧
      (db.version order).reason = loaded.props.cancellationReason ∧
      loaded.props.orderReference = order ∧ loaded.domainEvents = [] := by
  rcases findById_eq_ok_some found with ⟨row, stored, rebuilt⟩
  rcases reconstitute_status rebuilt with ⟨reference, status, reason⟩
  refine ⟨?_, ?_, reference.trans (keyed _ _ stored), (silent_of_reconstitute rebuilt).1⟩
  · simp [OrdersDb.statusOf, stored, status]
  · simp [OrdersDb.version, stored, reason]

/-- A save by a transaction that is current tells of where it moves the order. -/
theorem RetellsIn.commit {opened : OpenTransaction} {db db' : OrdersDb}
    {saved loaded : Order} (keyed : opened.snapshot.Keyed)
    (current : opened.work.order = order → opened.Current db)
    (found : opened.snapshot.findById opened.work.order = .ok (some loaded))
    (reference : saved.props.orderReference = loaded.props.orderReference)
    (announces : saved.Announces loaded.props)
    (orders : db'.orders = (db.save saved).orders)
    (outbox : db'.outbox = (db.save saved).outbox) : RetellsIn order db db' := by
  rcases version_of_findById keyed found with ⟨status, reason, ofLoaded, _⟩
  apply RetellsIn.save announces _ orders outbox
  intro ofOrder
  have isOrder : opened.work.order = order := by
    rw [← ofOrder, reference, ofLoaded]
  have same := current isOrder
  rw [OpenTransaction.Current, isOrder] at same
  rw [isOrder] at status reason
  constructor
  · rw [← status]
    exact (congrArg Version.status same).symm
  · rw [← reason, same]

/-- A commit tells of where it moves the order. -/
theorem RetellsIn.commits {system system' : OrdersSystem} {opened : OpenTransaction}
    (keyed : opened.snapshot.Keyed)
    (current : opened.work.order = order → opened.Current system.db)
    (committed : OrdersSystem.Commits system opened system') :
    RetellsIn order system.db system'.db := by
  cases committed with
  | handleFact envelope sourceTopic factWork work fresh handled =>
      have saves : ∀ saved rest, factWork.writes = .save saved :: rest →
          ∀ db' : OrdersDb, db'.orders = (system.db.save saved).orders →
            db'.outbox = (system.db.save saved).outbox →
              RetellsIn order system.db db' := by
        intro saved rest isWrites db' orders outbox
        rcases @announces_of_handleFact _ _ _ _ saved handled (by simp [isWrites]) with
          ⟨loaded, found, reference, announces⟩
        apply RetellsIn.commit keyed current _ reference announces orders outbox
        rw [work]
        exact found
      have written := handleFact_writes handled
      generalize isWrites : factWork.writes = writes at written
      cases written with
      | unknownOrder | preconditionUnmet => exact RetellsIn.same rfl rfl
      | late loaded payload =>
          apply RetellsIn.same
          · exact OrdersDb.enqueue_orders _ _ _ _
          · exact OrdersDb.enqueue_outbox _ _ _
      | advance loaded saved | cancel loaded saved =>
          exact saves saved _ isWrites _ rfl rfl
      | advanceOwing loaded saved =>
          apply saves saved _ isWrites
          · exact OrdersDb.enqueue_orders _ _ _ _
          · exact OrdersDb.enqueue_outbox _ _ _
  | cancelPlaced placed writes outcome work decided =>
      rcases cancelPlaced_writes decided with
        ⟨rfl, _⟩ | ⟨loaded, saved, found, cancelled, rfl, _⟩
      · exact RetellsIn.same rfl rfl
      · have events := (version_of_findById keyed found).2.2.2
        apply RetellsIn.commit keyed current _ _ (.cancel cancelled events) rfl rfl
        · rw [work]
          exact found
        · rw [(Order.cancel_eq_ok cancelled).2.2.2]
  | onFirstPark parked failure writes work decided =>
      rcases onFirstPark_writes decided with ⟨rfl, _⟩ | ⟨loaded, found, rfl⟩
      · exact RetellsIn.same rfl rfl
      · have events := (version_of_findById keyed found).2.2.2
        apply RetellsIn.commit keyed current _ _
          (.recordSagaFailure loaded failure events) rfl rfl
        · rw [work]
          exact found
        · rfl

/-- Placing an order tells of nothing. -/
theorem RetellsIn.place {system : OrdersSystem} {newId : Nat → UniqueId}
    {input : PlaceOrderInput} {created : Order} (form : StoredForm)
    (unknown : system.db.orders input.orderReference = none)
    (isCreated : Order.place newId input = .ok created) :
    RetellsIn order system.db (system.db.insert created form) := by
  rcases Order.place_eq_ok isCreated with ⟨reference, status, reason, _, _, _, _, events⟩
  have told := @announced_append order system.db (system.db.insert created form)
    created.domainEvents input.orderReference rfl (by
      simp [events, orderPlacedEvent, Fact.orderReference, reference])
  have silent : created.domainEvents.filterMap announced? = [] := by
    simp [events, orderPlacedEvent, announced?]
  rw [silent, ite_self] at told
  refine ⟨[], told, ?_⟩
  by_cases same : input.orderReference = order
  · subst same
    have row : (system.db.insert created form).orders input.orderReference =
        some (form.row created.props) := by
      simp [OrdersDb.insert, reference]
    apply Retells.moves .placed
    · simp [OrdersDb.version, OrdersDb.statusOf, row, status]
    · intro old isOld
      simp [OrdersDb.version, OrdersDb.statusOf, unknown] at isOld
  · have row : (system.db.insert created form).orders order =
        system.db.orders order := by
      rw [← reference] at same
      simp [OrdersDb.insert, Function.update_of_ne (Ne.symm same)]
    apply Retells.stays
    · simp [OrdersDb.version, OrdersDb.statusOf, row]
    · simp [OrdersDb.version, row]

/-- The update of a command row appends nothing. -/
theorem outbox_of_update {db db' : OrdersDb} {updated : OrderNumber}
    {kind : SagaCommandKind} {update : SagaCommandRow → SagaCommandRow}
    (result : db.updateUnlessSent updated kind update = some db') :
    db'.outbox = db.outbox := by
  unfold OrdersDb.updateUnlessSent at result
  split at result
  · cases result
  · split at result
    · cases result
    · cases result
      rfl

/-- Every step tells of where it moves an order whose transactions are current. -/
theorem retellsIn_step {system system' : OrdersSystem} {action : OrdersAction}
    (keyed : ∀ opened ∈ system.openTransactions, opened.snapshot.Keyed)
    (current : ∀ opened ∈ system.openTransactions, opened.work.order = order →
      opened.Current system.db)
    (stepped : OrdersSystem.step system action = some system') :
    RetellsIn order system.db system'.db := by
  cases OrdersSystem.moves_of_step stepped with
  | place firstLineId input form created unknown isCreated =>
      exact .place form unknown isCreated
  | commit index opened _ found committed =>
      have openedMem := List.mem_of_getElem? found
      have ended : { system with
          openTransactions := system.openTransactions.eraseIdx index }.db = system.db := rfl
      rw [← ended]
      exact .commits (keyed opened openedMem) (current opened openedMem) committed
  | beginFact | readForCancel | notFound | cancelInTransaction | rollback
  | alreadyClaimed | beginFirstPark => exact .same rfl rfl
  | beginStockRelease =>
      exact .same (OrdersDb.enqueue_orders _ _ _ _) (OrdersDb.enqueue_outbox _ _ _)
  | markSent _ _ _ updated | markRejected _ _ _ _ _ updated | park _ _ _ _ _ updated =>
      exact .same (OrdersDb.updateUnlessSent_orders updated) (outbox_of_update updated)
  | claimDeadLetter index parked db waiting claimed =>
      rcases OrdersDb.claimDeadLetter_sagaCommands claimed with ⟨row, _, _, rfl⟩
      exact .same rfl rfl

/-! ## What has been told agrees with the order -/

/-- What was told of an order is what it is now, or what it was on its way; and
what it is now was told. -/
structure Told (announced : List Announcement) (version : Version) : Prop where
  reached : ∀ status reason, (status, reason) ∈ announced →
    ∃ current, version.status = some current ∧
      (current = status ∧ version.reason = reason ∨ status.rank < current.rank)
  told : ∀ status, version.status = some status →
    ∀ announcement ∈ announcementOf version.reason status, announcement ∈ announced

theorem Told.initial : Told (OrdersDb.empty.announced order) (OrdersDb.empty.version order) := by
  constructor
  · rintro status reason ⟨⟩
  · rintro status ⟨⟩

theorem Told.step {db db' : OrdersDb} (told : Told (db.announced order) (db.version order))
    (retells : RetellsIn order db db') :
    Told (db'.announced order) (db'.version order) := by
  rcases retells with ⟨new, grown, retells⟩
  rw [grown]
  cases retells with
  | stays status reason =>
      rw [List.append_nil]
      constructor
      · rw [status, reason]
        exact told.reached
      · rw [status, reason]
        exact told.told
  | moves status isStatus climbs =>
      constructor
      · intro other reason otherMem
        refine ⟨status, isStatus, ?_⟩
        rcases List.mem_append.mp otherMem with before | new
        · rcases told.reached other reason before with ⟨old, isOld, same | below⟩
          · rw [← same.1]
            exact Or.inr (climbs old isOld)
          · exact Or.inr (Nat.lt_trans below (climbs old isOld))
        · have isNew := mem_announcementOf new
          rw [Prod.mk.injEq] at isNew
          exact Or.inl ⟨isNew.1.symm, isNew.2.symm⟩
      · intro other isOther announcement announcementMem
        rw [isStatus, Option.some.injEq] at isOther
        subst isOther
        exact List.mem_append_right _ announcementMem

end OrderToCash.Orders
