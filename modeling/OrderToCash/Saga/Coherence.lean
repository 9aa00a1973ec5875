import OrderToCash.Saga.OrderSaga

/-!
# What every run of the saga keeps

Whatever Orders has read and in whatever order facts arrive: a fact is emitted
exactly where the reservation or the credit shows it, a status stands for the
facts that led to it, and a command is owed for the fact or the cancel request
that asked for it.
-/

namespace OrderToCash.Saga

open OrderToCash.Billing
open OrderToCash.Contracts
open OrderToCash.Fulfillment
open OrderToCash.Orders

namespace OrderSaga

variable {saga saga' : OrderSaga} {label : Label}

/-! ## Carrying out a reaction -/

section CarryOut

variable (saga) (reaction : Reaction)

@[simp]
theorem save_owed : (saga.save reaction.saves).owed = saga.owed := by
  rcases reaction with ⟨_ | _, _⟩ <;> rfl

@[simp]
theorem save_releaseFor : (saga.save reaction.saves).releaseFor = saga.releaseFor := by
  rcases reaction with ⟨_ | _, _⟩ <;> rfl

@[simp]
theorem carryOut_pending : (saga.carryOut reaction).pending = saga.pending := by
  rcases reaction with ⟨_ | _, _ | (_ | _ | _ | _ | _ | _)⟩ <;> rfl

@[simp]
theorem carryOut_handled : (saga.carryOut reaction).handled = saga.handled := by
  rcases reaction with ⟨_ | _, _ | (_ | _ | _ | _ | _ | _)⟩ <;> rfl

@[simp]
theorem carryOut_agreed : (saga.carryOut reaction).agreed = saga.agreed := by
  rcases reaction with ⟨_ | _, _ | (_ | _ | _ | _ | _ | _)⟩ <;> rfl

@[simp]
theorem carryOut_stock : (saga.carryOut reaction).stock = saga.stock := by
  rcases reaction with ⟨_ | _, _ | (_ | _ | _ | _ | _ | _)⟩ <;> rfl

@[simp]
theorem carryOut_credit : (saga.carryOut reaction).credit = saga.credit := by
  rcases reaction with ⟨_ | _, _ | (_ | _ | _ | _ | _ | _)⟩ <;> rfl

@[simp]
theorem carryOut_owed (kind : SagaCommandKind) :
    (saga.carryOut reaction).owed kind ↔
      reaction.owes = some kind ∨ saga.owed kind := by
  unfold carryOut
  cases owes : reaction.owes with
  | none => simp [oweAfterFact]
  | some other =>
      cases other <;> simp [oweAfterFact, owe, oweRelease, eq_comm]

@[simp]
theorem carryOut_releaseFor (reason : StockReleaseReason) :
    (saga.carryOut reaction).releaseFor reason ↔
      saga.releaseFor reason ∨ reaction.owes = some .stockRelease ∧
        ¬ saga.owed .stockRelease ∧ reason = .creditRejected := by
  unfold carryOut
  cases owes : reaction.owes with
  | none => simp [oweAfterFact]
  | some other =>
      cases other <;> simp [oweAfterFact, owe, oweRelease]

/-- The version an order is left in. -/
def after (current : Version) :
    Option (OrderStatus × Option CancellationReason) → Version
  | none => current
  | some (status, reason) => saved current status reason

@[simp]
theorem carryOut_current :
    (saga.carryOut reaction).current = after saga.current reaction.saves := by
  rcases reaction with ⟨_ | ⟨_, _⟩, _ | (_ | _ | _ | _ | _ | _)⟩ <;> rfl

@[simp]
theorem carryOut_past (version : Version) :
    (saga.carryOut reaction).past version ↔
      reaction.saves ≠ none ∧ version = after saga.current reaction.saves ∨
        saga.past version := by
  rcases reaction with ⟨_ | ⟨_, _⟩, _ | (_ | _ | _ | _ | _ | _)⟩ <;>
    simp [carryOut, save, oweAfterFact, commit, owe, oweRelease, after]

end CarryOut

/-! ## Facts and phases -/

/-- What has been emitted shows in the reservation and the credit, and what
shows has been emitted. -/
structure Emissions (saga : OrderSaga) : Prop where
  placed : saga.emitted .orderPlaced ↔ saga.current.status ≠ none
  reserved : saga.emitted .stockReserved ↔ saga.stock ≠ none
  released : ∀ reason, saga.emitted (.stockReleased reason) →
    saga.stock = some .released ∧ saga.releaseFor reason
  isReleased : saga.stock = some .released →
    ∃ reason, saga.emitted (.stockReleased reason)
  despatched : saga.emitted .orderDespatched ↔ saga.stock = some .consumed
  approved : saga.emitted .creditApproved ↔ saga.credit ≠ .unheld
  issued : saga.emitted .invoiceIssued ↔
    saga.credit = .invoiced ∨ saga.credit = .invoicedReturned ∨
      saga.credit = .paid ∨ saga.credit = .paidReturned
  received : saga.emitted .paymentReceived ↔
    saga.credit = .paid ∨ saga.credit = .paidReturned
  paidFor : saga.emitted (.creditReleased .invoicePaid) ↔ saga.credit = .paid
  returned : saga.emitted (.creditReleased .orderCancelled) ↔
    saga.credit = .returned ∨ saga.credit = .invoicedReturned ∨
      saga.credit = .paidReturned
  once : ∀ fact, ¬ Repeatable fact → saga.pending fact → ¬ saga.handled fact
  releaseOwed : saga.owed .stockRelease ↔ ∃ reason, saga.releaseFor reason
  oneRelease : ∀ reason other, saga.releaseFor reason → saga.releaseFor other →
    reason = other

/-- The emissions depend on nothing else. -/
theorem Emissions.of_same (emissions : saga.Emissions)
    (exists_iff : saga'.current.status ≠ none ↔ saga.current.status ≠ none)
    (owed : saga'.owed .stockRelease ↔ saga.owed .stockRelease)
    (releaseFor : saga'.releaseFor = saga.releaseFor)
    (pending : saga'.pending = saga.pending) (handled : saga'.handled = saga.handled)
    (stock : saga'.stock = saga.stock) (credit : saga'.credit = saga.credit) :
    saga'.Emissions := by
  have emitted : saga'.emitted = saga.emitted := by
    unfold OrderSaga.emitted
    rw [pending, handled]
  constructor
  · rw [emitted, exists_iff]
    exact emissions.placed
  all_goals simp only [emitted, stock, credit, releaseFor, pending, handled, owed]
  · exact emissions.reserved
  · exact emissions.released
  · exact emissions.isReleased
  · exact emissions.despatched
  · exact emissions.approved
  · exact emissions.issued
  · exact emissions.received
  · exact emissions.paidFor
  · exact emissions.returned
  · exact emissions.once
  · exact emissions.releaseOwed
  · exact emissions.oneRelease

theorem Emissions.initial : initial.Emissions := by
  constructor <;> simp [OrderSaga.initial, unplaced, emitted]

theorem emitted_emit (fact other : SagaFact) :
    (saga.emit fact).emitted other ↔ other = fact ∨ saga.emitted other := by
  simp [emitted, emit, or_assoc]

/-- Handling a pending fact emits nothing and forgets nothing. -/
theorem emitted_consume {fact : SagaFact} (waits : saga.pending fact) (rest : Prop)
    (other : SagaFact) :
    (saga.consume fact rest).emitted other ↔ saga.emitted other := by
  unfold emitted consume
  by_cases same : other = fact
  · subst same
    simp [waits]
  · simp [same]

theorem emitted_handle {fact : SagaFact} (waits : saga.pending fact) (rest : Prop)
    (reaction : Reaction) (other : SagaFact) :
    ((saga.consume fact rest).carryOut reaction).emitted other ↔
      saga.emitted other := by
  rw [emitted, carryOut_pending, carryOut_handled]
  exact emitted_consume waits rest other

/-- A reaction neither places an order nor loses it. -/
@[simp]
theorem after_status_ne_none (current : Version)
    (saves : Option (OrderStatus × Option CancellationReason)) :
    (after current saves).status ≠ none ↔ current.status ≠ none := by
  cases saves <;> simp [after]

theorem Emissions.move (emissions : saga.Emissions) (moved : saga.Move label saga') :
    saga'.Emissions := by
  have ⟨placed, reserved, released, isReleased, despatched, approved, issued,
    received, paidFor, returned, once, releaseOwed, oneRelease⟩ := emissions
  cases moved with
  | place unknown =>
      constructor <;> simp [emitted] <;> grind [emitted]
  | handle fact read reaction rest waits isPast reacts again =>
      have emitted_iff := emitted_handle waits rest reaction
      constructor
      · rw [emitted_iff, carryOut_current, after_status_ne_none]
        exact placed
      · simpa [emitted_iff] using reserved
      · intro reason
        rw [emitted_iff, carryOut_stock, carryOut_releaseFor]
        rintro before
        exact ⟨(released reason before).1, Or.inl (released reason before).2⟩
      · simpa [emitted_iff] using isReleased
      · simpa [emitted_iff] using despatched
      · simpa [emitted_iff] using approved
      · simpa [emitted_iff] using issued
      · simpa [emitted_iff] using received
      · simpa [emitted_iff] using paidFor
      · simpa [emitted_iff] using returned
      · intro other notRepeatable
        simp only [carryOut_pending, carryOut_handled, consume_pending,
          consume_handled]
        rintro ⟨before, isRest⟩ (same | already)
        · exact notRepeatable (same ▸ again (isRest same))
        · exact once other notRepeatable before already
      · simp only [carryOut_owed, carryOut_releaseFor, consume_owed,
          consume_releaseFor]
        grind
      · simp only [carryOut_releaseFor, consume_owed, consume_releaseFor]
        grind
  | cancel read status isPast isStatus cancellable =>
      apply emissions.of_same
      · simp
      all_goals rfl
  | firstPark read status isPast isStatus =>
      apply emissions.of_same
      · simp
      all_goals rfl
  | beginRelease read status isPast isStatus releases first =>
      constructor <;> simp [emitted] <;> grind [emitted]
  | beginReleaseAgain read status isPast isStatus releases owed =>
      exact emissions.of_same Iff.rfl Iff.rfl rfl rfl rfl rfl rfl
  | reserved owed first =>
      constructor <;> simp [emitted] <;> grind [emitted]
  | stockRejected owed first =>
      constructor <;> simp [emitted] <;> grind [emitted, Repeatable]
  | released reason owed held =>
      constructor <;> simp [emitted] <;> grind [emitted]
  | despatched owed held =>
      constructor <;> simp [emitted] <;> grind [emitted]
  | approved owed first =>
      constructor <;> simp [emitted] <;> grind [emitted]
  | creditRejected owed first =>
      constructor <;> simp [emitted] <;> grind [emitted, Repeatable]
  | issued owed held =>
      constructor <;> simp [emitted] <;> grind [emitted]
  | paid invoiced =>
      constructor <;> simp [emitted] <;> grind [emitted]
  | paidReturned invoiced =>
      constructor <;> simp [emitted] <;> grind [emitted]
  | returned owed something =>
      constructor <;> simp [emitted] <;> grind [emitted, OrderCredit.returnedFrom]

/-! ## Statuses and commands -/

/-- What a committed status, with its cancellation reason, stands for. -/
structure StandsFor (saga : OrderSaga) (status : OrderStatus)
    (reason : Option CancellationReason) : Prop where
  notApproving : status ≠ .creditApproved
  reasonless : status ≠ .cancelled → reason = none
  reserved : status ≠ .cancelled → OrderStatus.placed.rank < status.rank →
    saga.handled .stockReserved
  approved : status ≠ .cancelled → OrderStatus.stockReserved.rank < status.rank →
    saga.handled .creditApproved
  despatched : status ≠ .cancelled → OrderStatus.confirmed.rank < status.rank →
    saga.handled .orderDespatched
  invoiced : status ≠ .cancelled → OrderStatus.despatched.rank < status.rank →
    saga.handled .invoiceIssued
  paid : status ≠ .cancelled → OrderStatus.invoiced.rank < status.rank →
    saga.handled .paymentReceived
  completed : status = .completed → ∃ reason, saga.handled (.creditReleased reason)
  stockRejected : reason = some .stockRejected → saga.handled .stockRejected
  creditRejected : reason = some .creditRejected →
    saga.handled (.stockReleased .creditRejected)
  operatorCancelled : reason = some .operatorCancelled →
    saga.agreed ∨ saga.handled .creditRejected ∧ saga.handled .creditApproved

/-- A committed version stands for what its status does, and remembers a cancel
request that was accepted. -/
structure IsTrue (saga : OrderSaga) (version : Version) : Prop where
  standsFor : ∀ status, version.status = some status →
    saga.StandsFor status version.reason
  accepted : version.accepted = true →
    saga.agreed ∧ saga.releaseFor .orderCancelled
  unplaced : version.status = none → version.reason = none
  isPlaced : version.status ≠ none → saga.current.status ≠ none

/-- What each command was owed for, and what was done was owed. -/
structure Commands (saga : OrderSaga) : Prop where
  isPlaced : ∀ kind, saga.owed kind → saga.current.status ≠ none
  stockReserve : saga.owed .stockReserve → saga.handled .orderPlaced
  creditHold : saga.owed .creditHold → saga.handled .stockReserved
  despatchCreate : saga.owed .despatchCreate → saga.handled .creditApproved
  invoiceIssue : saga.owed .invoiceIssue → saga.handled .orderDespatched
  releaseRequested : saga.releaseFor .orderCancelled →
    saga.agreed ∧ saga.handled .stockReserved
  releaseRejected : saga.releaseFor .creditRejected → saga.handled .creditRejected
  /-- The credit is returned after a release, or instead of a despatch. -/
  returnShown : saga.owed .creditRelease →
    (∃ reason, saga.handled (.stockReleased reason)) ∨
      saga.handled .creditApproved ∧ ¬ saga.owed .despatchCreate
  returnWanted : saga.owed .creditRelease →
    saga.agreed ∨ saga.handled .creditRejected ∧ saga.handled .creditApproved
  reserved : saga.stock ≠ none → saga.owed .stockReserve
  stockRejected : saga.emitted .stockRejected → saga.owed .stockReserve
  consumed : saga.stock = some .consumed → saga.owed .despatchCreate
  held : saga.credit ≠ .unheld → saga.owed .creditHold
  creditRejected : saga.emitted .creditRejected → saga.owed .creditHold
  issued : saga.emitted .invoiceIssued → saga.owed .invoiceIssue
  returned : saga.emitted (.creditReleased .orderCancelled) → saga.owed .creditRelease

/-- What every run keeps. -/
structure Coherent (saga : OrderSaga) : Prop where
  emissions : saga.Emissions
  commands : saga.Commands
  past : ∀ version, saga.past version → saga.IsTrue version
  current : saga.past saga.current

theorem Coherent.initial : initial.Coherent where
  emissions := .initial
  commands := by
    constructor <;> simp [OrderSaga.initial, emitted]
  past := by
    rintro version rfl
    constructor <;> simp [OrderSaga.initial, OrderSaga.unplaced]
  current := rfl

/-- What a status stands for is not taken back. -/
theorem StandsFor.mono {status : OrderStatus} {reason : Option CancellationReason}
    (standsFor : saga.StandsFor status reason)
    (handled : ∀ fact, saga.handled fact → saga'.handled fact)
    (agreed : saga.agreed → saga'.agreed) : saga'.StandsFor status reason where
  notApproving := standsFor.notApproving
  reasonless := standsFor.reasonless
  reserved live beyond := handled _ (standsFor.reserved live beyond)
  approved live beyond := handled _ (standsFor.approved live beyond)
  despatched live beyond := handled _ (standsFor.despatched live beyond)
  invoiced live beyond := handled _ (standsFor.invoiced live beyond)
  paid live beyond := handled _ (standsFor.paid live beyond)
  completed isCompleted := by
    rcases standsFor.completed isCompleted with ⟨reason, isHandled⟩
    exact ⟨reason, handled _ isHandled⟩
  stockRejected is := handled _ (standsFor.stockRejected is)
  creditRejected is := handled _ (standsFor.creditRejected is)
  operatorCancelled is := by
    rcases standsFor.operatorCancelled is with before | ⟨rejected, approved⟩
    · exact Or.inl (agreed before)
    · exact Or.inr ⟨handled _ rejected, handled _ approved⟩

theorem IsTrue.mono {version : Version} (isTrue : saga.IsTrue version)
    (handled : ∀ fact, saga.handled fact → saga'.handled fact)
    (agreed : saga.agreed → saga'.agreed)
    (releaseFor : ∀ reason, saga.releaseFor reason → saga'.releaseFor reason)
    (isPlaced : saga.current.status ≠ none → saga'.current.status ≠ none) :
    saga'.IsTrue version where
  standsFor status isStatus := (isTrue.standsFor status isStatus).mono handled agreed
  accepted isAccepted :=
    ⟨agreed (isTrue.accepted isAccepted).1, releaseFor _ (isTrue.accepted isAccepted).2⟩
  unplaced := isTrue.unplaced
  isPlaced exists' := isPlaced (isTrue.isPlaced exists')

/-- A saved status stands for what is saved, if the order exists. -/
theorem IsTrue.saved {current : Version} (isTrue : saga.IsTrue current)
    {status : OrderStatus} {reason : Option CancellationReason}
    (standsFor : saga.StandsFor status reason) :
    saga.IsTrue (saved current status reason) where
  standsFor := by
    intro other isOther
    simp only [saved_status, Option.map_eq_some_iff] at isOther
    rcases isOther with ⟨before, isBefore, rfl⟩
    simpa [isBefore] using standsFor
  accepted := isTrue.accepted
  unplaced := by
    intro none
    simp only [saved_status, Option.map_eq_none_iff] at none
    simpa [none] using isTrue.unplaced none
  isPlaced := by
    intro some
    apply isTrue.isPlaced
    simpa using some

/-- What a reaction saves stands for the fact and what the version read stands
for. -/
theorem standsFor_of_reacts {fact : SagaFact} {read : Version} {reaction : Reaction}
    (coherent : saga.Coherent) (waits : saga.pending fact) (isPast : saga.past read)
    (reacts : Reacts read fact reaction) (rest : Prop) {status : OrderStatus}
    {reason : Option CancellationReason}
    (saves : reaction.saves = some (status, reason)) :
    (saga.consume fact rest).StandsFor status reason := by
  have isTrue := coherent.past read isPast
  have kept : ∀ status, read.status = some status →
      (saga.consume fact rest).StandsFor status read.reason := by
    intro status isStatus
    apply (isTrue.standsFor status isStatus).mono
    · exact fun other isHandled => Or.inr isHandled
    · exact id
  cases reacts with
  | ignored | late => cases saves
  | placed isStatus =>
      cases saves
      have before := kept _ isStatus
      rwa [before.reasonless (by decide)] at before
  | stockReserved isStatus =>
      cases saves
      constructor <;> simp [OrderStatus.rank]
  | stockRejected isStatus =>
      cases saves
      constructor <;> simp
  | approved isStatus onTime =>
      cases saves
      have reserved := (isTrue.standsFor _ isStatus).reserved (by decide) (by decide)
      constructor <;> simp [OrderStatus.rank, reserved]
  | creditRejected isStatus =>
      cases saves
      have before := kept _ isStatus
      rwa [before.reasonless (by decide)] at before
  | released releaseReason isStatus =>
      cases saves
      have owed := (coherent.emissions.released releaseReason (Or.inl waits)).2
      cases releaseReason with
      | creditRejected => constructor <;> simp [reasonOfRelease]
      | orderCancelled =>
          have agreed := (coherent.commands.releaseRequested owed).1
          constructor <;> simp [reasonOfRelease, agreed]
  | releasedHeld releaseReason status isStatus past =>
      cases saves
      have before := kept _ isStatus
      have notCancelled : status ≠ .cancelled := by
        rintro rfl
        rcases past with _ | _ <;> contradiction
      rwa [before.reasonless notCancelled] at before
  | despatched isStatus =>
      cases saves
      have reserved := (isTrue.standsFor _ isStatus).reserved (by decide) (by decide)
      have approved := (isTrue.standsFor _ isStatus).approved (by decide) (by decide)
      constructor <;> simp [OrderStatus.rank, reserved, approved]
  | invoiced isStatus =>
      cases saves
      have reserved := (isTrue.standsFor _ isStatus).reserved (by decide) (by decide)
      have approved := (isTrue.standsFor _ isStatus).approved (by decide) (by decide)
      have despatched := (isTrue.standsFor _ isStatus).despatched (by decide) (by decide)
      constructor <;> simp [OrderStatus.rank, reserved, approved, despatched]
  | paid isStatus =>
      cases saves
      have reserved := (isTrue.standsFor _ isStatus).reserved (by decide) (by decide)
      have approved := (isTrue.standsFor _ isStatus).approved (by decide) (by decide)
      have despatched := (isTrue.standsFor _ isStatus).despatched (by decide) (by decide)
      have invoiced := (isTrue.standsFor _ isStatus).invoiced (by decide) (by decide)
      constructor <;>
        simp [OrderStatus.rank, reserved, approved, despatched, invoiced]
  | completed releaseReason isStatus =>
      cases saves
      have reserved := (isTrue.standsFor _ isStatus).reserved (by decide) (by decide)
      have approved := (isTrue.standsFor _ isStatus).approved (by decide) (by decide)
      have despatched := (isTrue.standsFor _ isStatus).despatched (by decide) (by decide)
      have invoiced := (isTrue.standsFor _ isStatus).invoiced (by decide) (by decide)
      have paid := (isTrue.standsFor _ isStatus).paid (by decide) (by decide)
      constructor <;>
        simp [OrderStatus.rank, reserved, approved, despatched, invoiced, paid]
  | returned held isStatus =>
      cases saves
      have owed := coherent.commands.returned (Or.inl waits)
      have wanted := coherent.commands.returnWanted owed
      constructor <;> simp [wanted]

/-- A late approval finds a cancel request that was accepted, or an order whose
rejected credit was approved after all. -/
theorem wanted_of_isLate (coherent : saga.Coherent) {read : Version}
    (isPast : saga.past read) (isLate : read.IsLate .creditApproved) :
    saga.agreed ∨ saga.handled .creditRejected ∧ saga.handled .creditApproved := by
  have isTrue := coherent.past read isPast
  rcases isLate with ⟨_, isLate⟩
  split at isLate
  · rename_i cancelled
    exact (isTrue.standsFor _ cancelled).operatorCancelled isLate
  · exact Or.inl (isTrue.accepted isLate.2).1

/-- The fact a command other than a release of credit is owed for. -/
def triggerOf : SagaCommandKind → Option SagaFact
  | .stockReserve => some .orderPlaced
  | .stockRelease => some .creditRejected
  | .despatchCreate => some .creditApproved
  | .creditHold => some .stockReserved
  | .invoiceIssue => some .orderDespatched
  | .creditRelease => none

theorem trigger_of_owes {fact : SagaFact} {read : Version} {reaction : Reaction}
    (reacts : Reacts read fact reaction) {kind : SagaCommandKind} {trigger : SagaFact}
    (triggers : triggerOf kind = some trigger) (owes : reaction.owes = some kind) :
    fact = trigger := by
  cases reacts <;> cases owes <;> cases triggers <;> rfl

/-- Only a placed order is owed anything. -/
theorem status_of_owes {fact : SagaFact} {read : Version} {reaction : Reaction}
    (reacts : Reacts read fact reaction) (owes : reaction.owes ≠ none) :
    read.status ≠ none := by
  cases reacts with
  | late isLate =>
      rcases isLate with ⟨_, isLate⟩
      split at isLate
      · rename_i cancelled
        simp [cancelled]
      · simp [isLate.1]
  | placed isStatus | stockReserved isStatus | approved isStatus
  | creditRejected isStatus | despatched isStatus => simp [isStatus]
  | releasedHeld _ _ isStatus => simp [isStatus]
  | ignored | stockRejected | released | invoiced | paid | completed | returned =>
      exact absurd rfl owes

/-- The commands after a fact is handled. -/
theorem Commands.handle (coherent : saga.Coherent) {fact : SagaFact} {read : Version}
    {reaction : Reaction} (waits : saga.pending fact) (isPast : saga.past read)
    (reacts : Reacts read fact reaction) (rest : Prop) :
    ((saga.consume fact rest).carryOut reaction).Commands := by
  have commands := coherent.commands
  have isTrue := coherent.past read isPast
  have emitted_iff := emitted_handle waits rest reaction
  have notTwice : fact = .creditApproved → ¬ saga.handled .creditApproved := by
    rintro rfl
    exact coherent.emissions.once _ (by simp [Repeatable]) waits
  have triggered : ∀ kind trigger, triggerOf kind = some trigger →
      (saga.owed kind → saga.handled trigger) →
        ((saga.consume fact rest).carryOut reaction).owed kind →
          ((saga.consume fact rest).carryOut reaction).handled trigger := by
    intro kind trigger triggers before owed
    rw [carryOut_handled]
    rcases (carryOut_owed _ _ _).mp owed with new | old
    · exact Or.inl (trigger_of_owes reacts triggers new).symm
    · exact Or.inr (before old)
  constructor
  · intro kind owed
    rw [carryOut_current, after_status_ne_none]
    rcases (carryOut_owed _ _ _).mp owed with new | before
    · apply isTrue.isPlaced
      apply status_of_owes reacts
      simp [new]
    · exact commands.isPlaced kind before
  · exact triggered _ _ rfl commands.stockReserve
  · exact triggered _ _ rfl commands.creditHold
  · exact triggered _ _ rfl commands.despatchCreate
  · exact triggered _ _ rfl commands.invoiceIssue
  · intro owed
    rw [carryOut_handled, carryOut_agreed]
    rcases (carryOut_releaseFor _ _ _).mp owed with before | ⟨_, _, absurdity⟩
    · exact ⟨(commands.releaseRequested before).1,
        Or.inr (commands.releaseRequested before).2⟩
    · cases absurdity
  · intro owed
    rw [carryOut_handled]
    rcases (carryOut_releaseFor _ _ _).mp owed with before | ⟨new, _, _⟩
    · exact Or.inr (commands.releaseRejected before)
    · exact Or.inl (trigger_of_owes reacts rfl new).symm
  · intro owed
    rw [carryOut_handled, carryOut_owed]
    rcases (carryOut_owed _ _ _).mp owed with new | before
    · cases reacts <;> cases new
      · -- a late approval is handled for the first time, so no despatch is owed
        refine Or.inr ⟨Or.inl rfl, ?_⟩
        rintro (absurdity | despatch)
        · cases absurdity
        · exact notTwice rfl (commands.despatchCreate despatch)
      · exact Or.inl ⟨_, Or.inl rfl⟩
    · rcases commands.returnShown before with ⟨reason, released⟩ | ⟨approved, notOwed⟩
      · exact Or.inl ⟨reason, Or.inr released⟩
      · refine Or.inr ⟨Or.inr approved, ?_⟩
        rintro (new | despatch)
        · exact notTwice (trigger_of_owes reacts rfl new) approved
        · exact notOwed despatch
  · intro owed
    rw [carryOut_handled, carryOut_agreed]
    have wanted : saga.agreed ∨
        saga.handled .creditRejected ∧ saga.handled .creditApproved := by
      rcases (carryOut_owed _ _ _).mp owed with new | before
      · cases reacts with
        | late isLate => exact wanted_of_isLate coherent isPast isLate
        | releasedHeld reason status isStatus held =>
            have standsFor := isTrue.standsFor _ isStatus
            have isConfirmed := held.resolve_left standsFor.notApproving
            have released := (coherent.emissions.released reason (Or.inl waits)).2
            cases reason with
            | orderCancelled => exact Or.inl (commands.releaseRequested released).1
            | creditRejected =>
                subst isConfirmed
                exact Or.inr ⟨commands.releaseRejected released,
                  standsFor.approved (by decide) (by decide)⟩
        | ignored | placed | stockReserved | stockRejected | approved
        | creditRejected | released | despatched | invoiced | paid | completed
        | returned => cases new
      · exact commands.returnWanted before
    rcases wanted with agreed | ⟨rejected, approved⟩
    · exact Or.inl agreed
    · exact Or.inr ⟨Or.inr rejected, Or.inr approved⟩
  · rw [carryOut_stock, carryOut_owed]
    exact fun some => Or.inr (commands.reserved some)
  · rw [emitted_iff, carryOut_owed]
    exact fun rejected => Or.inr (commands.stockRejected rejected)
  · rw [carryOut_stock, carryOut_owed]
    exact fun consumed => Or.inr (commands.consumed consumed)
  · rw [carryOut_credit, carryOut_owed]
    exact fun held => Or.inr (commands.held held)
  · rw [emitted_iff, carryOut_owed]
    exact fun rejected => Or.inr (commands.creditRejected rejected)
  · rw [emitted_iff, carryOut_owed]
    exact fun issued => Or.inr (commands.issued issued)
  · rw [emitted_iff, carryOut_owed]
    exact fun returned => Or.inr (commands.returned returned)

/-- Commands are kept by whatever takes nothing back of what they rest on. -/
theorem Commands.of_same (commands : saga.Commands)
    (isPlaced : saga.current.status ≠ none → saga'.current.status ≠ none)
    (owed : saga'.owed = saga.owed) (releaseFor : saga'.releaseFor = saga.releaseFor)
    (agreed : saga.agreed → saga'.agreed) (emitted : saga'.emitted = saga.emitted)
    (handled : saga'.handled = saga.handled) (stock : saga'.stock = saga.stock)
    (credit : saga'.credit = saga.credit) : saga'.Commands := by
  constructor
  all_goals simp only [owed, releaseFor, emitted, handled, stock, credit]
  · exact fun kind isOwed => isPlaced (commands.isPlaced kind isOwed)
  · exact commands.stockReserve
  · exact commands.creditHold
  · exact commands.despatchCreate
  · exact commands.invoiceIssue
  · exact fun isOwed => ⟨agreed (commands.releaseRequested isOwed).1,
      (commands.releaseRequested isOwed).2⟩
  · exact commands.releaseRejected
  · exact commands.returnShown
  · exact fun isOwed => (commands.returnWanted isOwed).imp_left agreed
  · exact commands.reserved
  · exact commands.stockRejected
  · exact commands.consumed
  · exact commands.held
  · exact commands.creditRejected
  · exact commands.issued
  · exact commands.returned

theorem Commands.move (coherent : saga.Coherent) (moved : saga.Move label saga') :
    saga'.Commands := by
  have commands := coherent.commands
  have ⟨isPlaced, stockReserve, creditHold, despatchCreate, invoiceIssue,
    releaseRequested, releaseRejected, returnShown, returnWanted, reserved,
    stockRejected, consumed, held, creditRejected, issued, returned⟩ := commands
  cases moved with
  | place unknown =>
      constructor <;> simp [emitted] <;> grind [emitted]
  | handle fact read reaction rest waits isPast reacts again =>
      exact .handle coherent waits isPast (reacts_of_react reacts) rest
  | cancel read status isPast isStatus cancellable =>
      apply commands.of_same
      · simp
      all_goals first | rfl | simp
  | firstPark read status isPast isStatus =>
      apply commands.of_same
      · simp
      all_goals first | rfl | exact id
  | beginRelease read status isPast isStatus releases first =>
      have standsFor := (coherent.past read isPast).standsFor _ isStatus
      have isReserved : saga.handled .stockReserved := by
        rcases releases with rfl | rfl | rfl
        · exact standsFor.reserved (by decide) (by decide)
        · exact standsFor.reserved (by decide) (by decide)
        · exact standsFor.reserved (by decide) (by decide)
      have live := (coherent.past read isPast).isPlaced (by simp [isStatus])
      constructor <;> simp [emitted] <;> grind [emitted]
  | beginReleaseAgain read status isPast isStatus releases owed =>
      apply commands.of_same
      · exact id
      all_goals first | rfl | simp
  | _ =>
      constructor <;> simp [emitted] <;> grind [emitted]

/-- Nothing a move does is taken back. -/
theorem Move.mono (moved : saga.Move label saga') :
    (∀ fact, saga.handled fact → saga'.handled fact) ∧
      (saga.agreed → saga'.agreed) ∧
      (∀ reason, saga.releaseFor reason → saga'.releaseFor reason) ∧
      (saga.current.status ≠ none → saga'.current.status ≠ none) := by
  cases moved with
  | handle fact read reaction rest =>
      refine ⟨fun other isHandled => ?_, fun agreed => ?_, fun reason owed => ?_, ?_⟩
      · rw [carryOut_handled]
        exact Or.inr isHandled
      · rwa [carryOut_agreed]
      · exact (carryOut_releaseFor _ _ _).mpr (Or.inl owed)
      · rw [carryOut_current, after_status_ne_none]
        exact id
  | beginRelease =>
      exact ⟨fun _ => id, fun _ => trivial, fun _ owed => Or.inl owed, id⟩
  | _ => simp

theorem IsTrue.move {version : Version} (isTrue : saga.IsTrue version)
    (moved : saga.Move label saga') : saga'.IsTrue version := by
  rcases moved.mono with ⟨handled, agreed, releaseFor, isPlaced⟩
  exact isTrue.mono handled agreed releaseFor isPlaced

/-- A version that a move commits is true. -/
theorem isTrue_of_move (coherent : saga.Coherent) (moved : saga.Move label saga')
    {version : Version} (isPast : saga'.past version) : saga'.IsTrue version := by
  have before : saga.past version → saga'.IsTrue version :=
    fun old => (coherent.past version old).move moved
  have here := (coherent.past _ coherent.current).move moved
  rcases moved.mono with ⟨handled, agreed, _, _⟩
  cases moved with
  | place unknown =>
      rcases isPast with rfl | old
      · constructor
        · rintro status ⟨⟩
          constructor <;> simp [OrderStatus.rank]
        · exact here.accepted
        · simp
        · simp
      · exact before old
  | handle fact read reaction rest waits isRead reacts again =>
      rcases (carryOut_past _ _ _).mp isPast with ⟨_, rfl⟩ | old
      · cases saves : reaction.saves with
        | none => exact here
        | some pair =>
            rcases pair with ⟨status, reason⟩
            apply here.saved
            have standsFor := standsFor_of_reacts coherent waits isRead
              (reacts_of_react reacts) rest saves
            apply standsFor.mono
            · simp
            · simp
      · exact before old
  | cancel read status isRead isStatus cancellable =>
      rcases isPast with rfl | old
      · apply here.saved
        constructor <;> simp
      · exact before old
  | firstPark read status isRead isStatus =>
      rcases isPast with rfl | old
      · apply here.saved
        apply ((coherent.past read isRead).standsFor _ isStatus).mono handled agreed
      · exact before old
  | beginRelease read status isRead isStatus releases first =>
      rcases isPast with rfl | old
      · constructor
        · exact here.standsFor
        · exact fun _ => ⟨trivial, Or.inr ⟨first, rfl⟩⟩
        · exact here.unplaced
        · exact here.isPlaced
      · exact before old
  | _ => exact before isPast

/-- Every move keeps the saga coherent. -/
theorem Coherent.move (coherent : saga.Coherent) (moved : saga.Move label saga') :
    saga'.Coherent where
  emissions := coherent.emissions.move moved
  commands := .move coherent moved
  past _ isPast := isTrue_of_move coherent moved isPast
  current := by
    cases moved with
    | handle fact read reaction rest =>
        rw [carryOut_past, carryOut_current]
        cases reaction.saves with
        | none => exact Or.inr coherent.current
        | some pair => exact Or.inl ⟨by simp, rfl⟩
    | place | cancel | firstPark | beginRelease => exact Or.inl rfl
    | _ => exact coherent.current

/-- Every fact is of a placed order. -/
theorem Coherent.known_of_emitted (coherent : saga.Coherent) {fact : SagaFact}
    (emitted : saga.emitted fact) : saga.current.status ≠ none := by
  have emissions := coherent.emissions
  have commands := coherent.commands
  have ofStock : saga.stock ≠ none → saga.current.status ≠ none :=
    fun some => commands.isPlaced _ (commands.reserved some)
  have ofCredit : saga.credit ≠ .unheld → saga.current.status ≠ none :=
    fun held => commands.isPlaced _ (commands.held held)
  cases fact with
  | orderPlaced => exact emissions.placed.mp emitted
  | stockReserved => exact ofStock (emissions.reserved.mp emitted)
  | stockRejected => exact commands.isPlaced _ (commands.stockRejected emitted)
  | stockReleased reason =>
      apply ofStock
      simp [(emissions.released reason emitted).1]
  | orderDespatched =>
      apply ofStock
      simp [emissions.despatched.mp emitted]
  | creditApproved => exact ofCredit (emissions.approved.mp emitted)
  | creditRejected => exact commands.isPlaced _ (commands.creditRejected emitted)
  | creditReleased reason =>
      apply ofCredit
      intro unheld
      cases reason with
      | invoicePaid => simpa [unheld] using emissions.paidFor.mp emitted
      | orderCancelled => simpa [unheld] using emissions.returned.mp emitted
  | invoiceIssued => exact commands.isPlaced _ (commands.issued emitted)
  | paymentReceived =>
      apply ofCredit
      intro unheld
      simpa [unheld] using emissions.received.mp emitted

end OrderSaga

end OrderToCash.Saga
