import Mathlib.Data.List.Range
import OrderToCash.Orders.Placement

/-!
# Gap-free order references

The references of the committed orders run from the first one without a gap,
and the counter stands after the last, as long as no call inserts an order
whose `requestId` is already taken.  A call that does resolves to the winner's
reply and commits: the number it allocated is burned.
-/

namespace OrderToCash.Orders

open OrderToCash.Contracts
open OrderToCash.Kernel
open OrderToCash.Transition

namespace PlacementDb

/-- The references are exactly those from `start` on, each once, and the
counter issues the next one. -/
structure GapFree (start : Nat) (db : PlacementDb) : Prop where
  references : db.orders.map OrderRow.sequence =
    List.range' start db.orders.length
  next : db.nextSequence = start + db.orders.length

theorem writeBack_sequences (db : PlacementDb) (order : OrderNumber)
    (saved : Order) :
    (db.writeBack order saved).orders.map OrderRow.sequence =
      db.orders.map OrderRow.sequence := by
  simp only [writeBack, List.map_map]
  apply List.map_congr_left
  intro row _
  simp only [Function.comp_apply]
  split <;> rfl

@[simp]
theorem writeBack_sequence (db : PlacementDb) (order : OrderNumber)
    (saved : Order) : (db.writeBack order saved).sequence = db.sequence :=
  rfl

theorem writeBack_startAt (db : PlacementDb) (order : OrderNumber)
    (saved : Order) : (db.writeBack order saved).startAt = db.startAt := by
  simp only [startAt, maxSequence, writeBack_sequences]

theorem GapFree.writeBack {start : Nat} {db : PlacementDb}
    (gapFree : db.GapFree start) (order : OrderNumber) (saved : Order) :
    (db.writeBack order saved).GapFree start := by
  have count : (db.writeBack order saved).orders.length = db.orders.length := by
    simp [PlacementDb.writeBack]
  constructor
  · rw [writeBack_sequences, count]
    exact gapFree.references
  · rw [count, ← gapFree.next]
    simp only [nextSequence, writeBack_sequence, writeBack_startAt]

/-- Committing the order of the number the counter issues keeps both. -/
theorem GapFree.append {start number : Nat} {db : PlacementDb}
    (gapFree : db.GapFree start) (issued : number = db.nextSequence)
    {row : OrderRow} (numbered : row.sequence = number) (outbox : List Fact) :
    GapFree start
      { orders := db.orders ++ [row]
        sequence := some (number + 1)
        outbox := outbox } := by
  have place : number = start + db.orders.length := issued.trans gapFree.next
  constructor
  · simp only [List.map_append, List.map_cons, List.map_nil, List.length_append,
      List.length_cons, List.length_nil, gapFree.references, numbered, place,
      List.range'_concat, Nat.one_mul]
  · simp only [nextSequence, Option.getD_some, List.length_append,
      List.length_cons, List.length_nil, place]
    omega

end PlacementDb

namespace PlacementSystem

variable {reference : ReferenceData} {commands : Nat → PlaceOrderCommand}

/-- No insert meets a committed order that carries the call's `requestId`. -/
def UnclaimedInsert (commands : Nat → PlaceOrderCommand) :
    Guard PlacementSystem PlacementAction := fun system action =>
  match action with
  | .insert call _ _ =>
      ∀ requestId, (commands call).requestId = some requestId →
        ¬ system.db.Claimed requestId
  | _ => True

instance (commands : Nat → PlaceOrderCommand) (system : PlacementSystem) :
    ∀ action, Decidable (UnclaimedInsert commands system action)
  | .insert call _ _ =>
      decidable_of_iff
        (∀ requestId ∈ (commands call).requestId,
          ¬ system.db.Claimed requestId) Iff.rfl
  | .lookUp _ => isTrue trivial
  | .checkStock _ _ => isTrue trivial
  | .openTransaction _ => isTrue trivial
  | .allocate _ => isTrue trivial
  | .commit _ => isTrue trivial
  | .lockError _ => isTrue trivial
  | .fail _ => isTrue trivial
  | .advance _ _ => isTrue trivial

/-- What the lock on the counter row keeps true. -/
structure Serialised (system : PlacementSystem) : Prop where
  /-- Whoever has allocated a number holds the counter row. -/
  holder : ∀ call number, (system.phases call).number? = some number →
    system.counterHolder = some call
  /-- The number a call holds is the one the counter issues next. -/
  number : ∀ call number, (system.phases call).number? = some number →
    number = system.db.nextSequence
  /-- While the counter row does not exist, its seed has not moved. -/
  seed : ∀ call attempt startAt,
    system.phases call = .opened attempt startAt →
      system.db.sequence = none → startAt = system.db.startAt

theorem serialised_initial (db : PlacementDb) : (initial db).Serialised where
  holder _ _ numbered := by cases numbered
  number _ _ numbered := by cases numbered
  seed _ _ _ opened := by cases opened

namespace Serialised

variable {system : PlacementSystem}

/-- A phase that holds no number the call did not hold before, on a database
whose counter has not moved. -/
theorem setPhase (serialised : system.Serialised) (call : Nat)
    {phase : CallPhase}
    (numbered : phase.number? = none ∨
      phase.number? = (system.phases call).number?)
    (seeded : ∀ attempt startAt, phase = .opened attempt startAt →
      startAt = system.db.startAt) :
    (system.setPhase call phase).Serialised := by
  have held : ∀ other number,
      ((system.setPhase call phase).phases other).number? = some number →
        (system.phases other).number? = some number := by
    intro other number holds
    by_cases same : other = call
    · subst same
      simp only [PlacementSystem.setPhase, Function.update_self] at holds
      rcases numbered with none | kept
      · rw [none] at holds
        cases holds
      · exact kept.symm.trans holds
    · simpa only [PlacementSystem.setPhase, Function.update_of_ne same]
        using holds
  constructor
  · intro other number holds
    exact serialised.holder other number (held other number holds)
  · intro other number holds
    exact serialised.number other number (held other number holds)
  · intro other attempt startAt opened absent
    by_cases same : other = call
    · subst same
      simp only [PlacementSystem.setPhase, Function.update_self] at opened
      exact seeded attempt startAt opened
    · simp only [PlacementSystem.setPhase, Function.update_of_ne same] at opened
      exact serialised.seed other attempt startAt opened absent

theorem rollback (serialised : system.Serialised) (call : Nat)
    {phase : CallPhase} (unnumbered : phase.number? = none)
    (notOpened : ∀ attempt startAt, phase ≠ .opened attempt startAt) :
    (system.rollback call phase).Serialised := by
  have phased : (system.setPhase call phase).Serialised := by
    apply serialised.setPhase call (.inl unnumbered)
    intro attempt startAt opened
    exact absurd opened (notOpened attempt startAt)
  constructor
  · intro other number holds
    have held := phased.holder other number holds
    have others : other ≠ call := by
      rintro rfl
      simp only [PlacementSystem.rollback, Function.update_self, unnumbered]
        at holds
      cases holds
    simp only [PlacementSystem.setPhase] at held
    simp only [PlacementSystem.rollback, held, Option.some.injEq, others,
      if_false]
  · exact phased.number
  · exact phased.seed

theorem allocate (serialised : system.Serialised) {call attempt startAt : Nat}
    (opened : system.phases call = .opened attempt startAt)
    (free : system.counterHolder = none) :
    (system.allocate call attempt startAt).Serialised := by
  simp only [PlacementSystem.allocate]
  split
  · have nobody : ∀ other number,
        (system.phases other).number? ≠ some number := by
      intro other number holds
      have held := serialised.holder other number holds
      rw [free] at held
      cases held
    have issued : system.db.sequence.getD startAt = system.db.nextSequence := by
      cases stored : system.db.sequence with
      | none =>
          simp only [PlacementDb.nextSequence, stored, Option.getD_none]
          exact serialised.seed call attempt startAt opened stored
      | some next => simp [PlacementDb.nextSequence, stored]
    constructor
    · intro other number holds
      by_cases same : other = call
      · rw [same]
      · simp only [Function.update_of_ne same] at holds
        exact absurd holds (nobody other number)
    · intro other number holds
      by_cases same : other = call
      · subst same
        simp only [Function.update_self, CallPhase.number?, Option.some.injEq]
          at holds
        exact holds.symm.trans issued
      · simp only [Function.update_of_ne same] at holds
        exact absurd holds (nobody other number)
    · intro other attempt' startAt' openedNow absent
      by_cases same : other = call
      · subst same
        simp only [Function.update_self] at openedNow
        cases openedNow
      · simp only [Function.update_of_ne same] at openedNow
        exact serialised.seed other attempt' startAt' openedNow absent
  · apply serialised.setPhase call (.inl rfl)
    intro _ _ isOpened
    cases isOpened

/-- The call that commits is the only one that holds a number. -/
theorem commitWith (serialised : system.Serialised) {call number next : Nat}
    (numbered : (system.phases call).number? = some number)
    {db : PlacementDb} (stored : db.sequence = some next)
    (result : PlaceOrderResult) :
    (system.commitWith call db result).Serialised := by
  have nobody : ∀ other held,
      ((system.commitWith call db result).phases other).number? ≠ some held := by
    intro other held holds
    by_cases same : other = call
    · subst same
      simp only [PlacementSystem.commitWith, Function.update_self,
        CallPhase.number?] at holds
      cases holds
    · simp only [PlacementSystem.commitWith, Function.update_of_ne same]
        at holds
      have first := serialised.holder other held holds
      have second := serialised.holder call number numbered
      rw [first] at second
      exact same (Option.some.inj second)
  constructor
  · intro other held holds
    exact absurd holds (nobody other held)
  · intro other held holds
    exact absurd holds (nobody other held)
  · intro other attempt startAt _ absent
    rw [commitWith_db, stored] at absent
    cases absent

theorem writeBack (serialised : system.Serialised) (order : OrderNumber)
    (saved : Order) :
    ({ system with db := system.db.writeBack order saved } :
      PlacementSystem).Serialised := by
  constructor
  · exact serialised.holder
  · intro call number holds
    have issued := serialised.number call number holds
    simpa only [PlacementDb.nextSequence, PlacementDb.writeBack_sequence,
      PlacementDb.writeBack_startAt] using issued
  · intro call attempt startAt opened absent
    rw [PlacementDb.writeBack_startAt]
    exact serialised.seed call attempt startAt opened absent

end Serialised

theorem lookUpPhase_number? (db : PlacementDb) (command : PlaceOrderCommand) :
    (lookUpPhase reference db command).number? = none := by
  unfold lookUpPhase
  repeat' split
  all_goals rfl

theorem checkStockPhase_number? (answer : StockAnswer) :
    (checkStockPhase answer).number? = none := by
  cases answer with
  | reply available lines => cases available <;> rfl
  | timeout => rfl
  | transportFailure => rfl

theorem lookUpPhase_ne_opened (db : PlacementDb) (command : PlaceOrderCommand)
    (attempt startAt : Nat) :
    lookUpPhase reference db command ≠ .opened attempt startAt := by
  unfold lookUpPhase
  repeat' split
  all_goals exact CallPhase.noConfusion

theorem checkStockPhase_ne_opened (answer : StockAnswer)
    (attempt startAt : Nat) : checkStockPhase answer ≠ .opened attempt startAt := by
  cases answer with
  | reply available lines => cases available <;> exact CallPhase.noConfusion
  | timeout => exact CallPhase.noConfusion
  | transportFailure => exact CallPhase.noConfusion

theorem Serialised.insert {system : PlacementSystem}
    (serialised : system.Serialised) {call attempt number : Nat}
    (allocated : system.phases call = .allocated attempt number)
    (orderId : UniqueId) (firstLineId : Nat) :
    (PlacementSystem.insert reference commands system call attempt number orderId
      firstLineId).Serialised := by
  have rolledBack : ∀ error,
      (system.rollback call (.failed error)).Serialised := by
    intro error
    exact serialised.rollback call rfl fun _ _ => CallPhase.noConfusion
  have numbered : (system.phases call).number? = some number := by
    rw [allocated]
    rfl
  simp only [PlacementSystem.insert]
  split
  · exact rolledBack _
  · split
    · exact rolledBack _
    · split
      · exact rolledBack _
      · exact serialised.setPhase call (.inr numbered.symm)
          fun _ _ => CallPhase.noConfusion
      · exact serialised.setPhase call (.inr numbered.symm)
          fun _ _ => CallPhase.noConfusion

theorem Serialised.lockError {system : PlacementSystem}
    (serialised : system.Serialised) (call attempt : Nat) :
    (system.lockError call attempt).Serialised := by
  unfold PlacementSystem.lockError
  split
  · exact serialised.rollback call rfl fun _ _ => CallPhase.noConfusion
  · exact serialised.rollback call rfl fun _ _ => CallPhase.noConfusion

/-- Every action keeps the counter row serialised. -/
theorem Serialised.step {system system' : PlacementSystem}
    {action : PlacementAction} (serialised : system.Serialised)
    (moved : Moves reference commands system action system') :
    system'.Serialised := by
  cases moved with
  | lookUp call arrived =>
      apply serialised.setPhase call (.inl (lookUpPhase_number? _ _))
      intro attempt startAt opened
      exact absurd opened (lookUpPhase_ne_opened _ _ attempt startAt)
  | checkStock call answer resolved =>
      apply serialised.setPhase call (.inl (checkStockPhase_number? answer))
      intro attempt startAt opened
      exact absurd opened (checkStockPhase_ne_opened answer attempt startAt)
  | openTransaction call attempt checked =>
      apply serialised.setPhase call (.inl rfl)
      intro _ _ opened
      cases opened
      rfl
  | allocate call attempt startAt opened free =>
      exact serialised.allocate opened free
  | insert call attempt number orderId firstLineId allocated =>
      exact serialised.insert allocated orderId firstLineId
  | commitOrder call attempt number row facts inserted =>
      have numbered : (system.phases call).number? = some number := by
        rw [inserted]
        rfl
      exact serialised.commitWith numbered rfl _
  | commitReply call attempt number winner lost =>
      have numbered : (system.phases call).number? = some number := by
        rw [lost]
        rfl
      exact serialised.commitWith numbered rfl _
  | lockError call attempt inTransaction =>
      exact serialised.lockError call attempt
  | fail call running =>
      exact serialised.rollback call rfl fun _ _ => CallPhase.noConfusion
  | advance operation row loaded saved keepsLines stored rebuilt performed =>
      exact serialised.writeBack _ saved

/-! ## Runs without a lost insert -/

/-- A gap-free database, and nothing under way that would leave a gap. -/
structure Gapless (start : Nat) (system : PlacementSystem) : Prop where
  serialised : system.Serialised
  gapFree : system.db.GapFree start
  /-- An inserted order bears the number its call allocated. -/
  numbered : ∀ call attempt number row facts,
    system.phases call = .inserted attempt number row facts →
      row.sequence = number
  /-- No call is about to commit another order's reply. -/
  noLoser : ∀ call attempt number winner,
    system.phases call ≠ .lost attempt number winner

namespace Gapless

variable {start : Nat} {system : PlacementSystem}

/-- A call that takes a phase of its own. -/
theorem change (gapless : system.Gapless start) {system' : PlacementSystem}
    (serialised : system'.Serialised) (gapFree : system'.db.GapFree start)
    {call : Nat}
    {phase : CallPhase}
    (phases : system'.phases = Function.update system.phases call phase)
    (numbered : ∀ attempt number row facts,
      phase = .inserted attempt number row facts → row.sequence = number)
    (noLoser : ∀ attempt number winner, phase ≠ .lost attempt number winner) :
    system'.Gapless start := by
  constructor
  · exact serialised
  · exact gapFree
  · intro other attempt number row facts inserted
    rw [phases] at inserted
    by_cases same : other = call
    · rw [same, Function.update_self] at inserted
      exact numbered attempt number row facts inserted
    · rw [Function.update_of_ne same] at inserted
      exact gapless.numbered other attempt number row facts inserted
  · intro other attempt number winner lost
    rw [phases] at lost
    by_cases same : other = call
    · rw [same, Function.update_self] at lost
      exact noLoser attempt number winner lost
    · rw [Function.update_of_ne same] at lost
      exact gapless.noLoser other attempt number winner lost

/-- A call that leaves its transaction, or never entered it. -/
theorem quiet (gapless : system.Gapless start) {system' : PlacementSystem}
    (serialised : system'.Serialised) (db : system'.db = system.db) {call : Nat}
    {phase : CallPhase}
    (phases : system'.phases = Function.update system.phases call phase)
    (unnumbered : phase.number? = none) : system'.Gapless start := by
  have gapFree : system'.db.GapFree start := by
    rw [db]
    exact gapless.gapFree
  apply gapless.change serialised gapFree phases
  · rintro attempt number row facts rfl
    cases unnumbered
  · rintro attempt number winner rfl
    cases unnumbered

/-- An insert that meets no order with the call's `requestId` is not lost. -/
theorem inserted (gapless : system.Gapless start) {system' : PlacementSystem}
    (serialised : system'.Serialised) {call attempt number : Nat}
    (unclaimed : ∀ requestId, (commands call).requestId = some requestId →
      ¬ system.db.Claimed requestId)
    (outcome : Inserted reference commands system call attempt number system') :
    system'.Gapless start := by
  cases outcome with
  | rolledBack error => exact gapless.quiet serialised rfl rfl rfl
  | lost requestId winner requested found =>
      exact absurd (claimed_of_findByRequestId found)
        (unclaimed requestId requested)
  | inserted orderId firstLineId order created _ =>
      apply gapless.change serialised gapless.gapFree rfl
      · intro _ _ _ _ isInserted
        cases isInserted
        exact congrArg OrderNumber.sequence (createOrder_reference created)
      · intro _ _ _
        exact CallPhase.noConfusion

theorem step {system' : PlacementSystem} {action : PlacementAction}
    (gapless : system.Gapless start)
    (admitted : UnclaimedInsert commands system action)
    (moved : Moves reference commands system action system') :
    system'.Gapless start := by
  have serialised := gapless.serialised.step moved
  cases moved with
  | lookUp call arrived =>
      exact gapless.quiet serialised rfl rfl (lookUpPhase_number? _ _)
  | checkStock call answer resolved =>
      exact gapless.quiet serialised rfl rfl (checkStockPhase_number? answer)
  | openTransaction call attempt checked =>
      exact gapless.quiet serialised rfl rfl rfl
  | allocate call attempt startAt opened free =>
      revert serialised
      simp only [PlacementSystem.allocate]
      split
      · intro serialised
        exact gapless.change serialised gapless.gapFree rfl
          (fun _ _ _ _ => CallPhase.noConfusion)
          (fun _ _ _ => CallPhase.noConfusion)
      · intro serialised
        exact gapless.quiet serialised rfl rfl rfl
  | insert call attempt number orderId firstLineId allocated =>
      exact gapless.inserted serialised admitted
        (inserted_of_insert system call attempt number orderId firstLineId)
  | commitOrder call attempt number row facts inserted =>
      have issued : number = system.db.nextSequence := by
        apply gapless.serialised.number call number
        rw [inserted]
        rfl
      have ownNumber := gapless.numbered call attempt number row facts inserted
      exact gapless.change serialised
        (gapless.gapFree.append issued ownNumber _) rfl
        (fun _ _ _ _ => CallPhase.noConfusion)
        (fun _ _ _ => CallPhase.noConfusion)
  | commitReply call attempt number winner lost =>
      exact absurd lost (gapless.noLoser call attempt number winner)
  | lockError call attempt inTransaction =>
      revert serialised
      simp only [PlacementSystem.lockError]
      split
      · intro serialised
        exact gapless.quiet serialised rfl rfl rfl
      · intro serialised
        exact gapless.quiet serialised rfl rfl rfl
  | fail call running =>
      exact gapless.quiet serialised rfl rfl rfl
  | advance operation row loaded saved keepsLines stored rebuilt performed =>
      constructor
      · exact serialised
      · exact gapless.gapFree.writeBack _ saved
      · exact gapless.numbered
      · exact gapless.noLoser

end Gapless

theorem gapless_initial {start : Nat} {db : PlacementDb}
    (gapFree : db.GapFree start) : (initial db).Gapless start where
  serialised := serialised_initial db
  gapFree := gapFree
  numbered _ _ _ _ _ inserted := by cases inserted
  noLoser _ _ _ _ lost := by cases lost

/-- The references of the committed orders are gap-free, and the counter stands
after the last, in every state reached without a lost insert. -/
theorem references_gapFree {start : Nat} {db : PlacementDb}
    (gapFree : db.GapFree start) {system : PlacementSystem}
    (path : Reachable (step reference commands) (UnclaimedInsert commands)
      (initial db) system) : system.db.GapFree start := by
  have gapless : system.Gapless start := by
    apply Reachable.invariant (gapless_initial gapFree) _ path
    intro before action after gapless admitted taken
    exact gapless.step admitted (moves_of_step taken)
  exact gapless.gapFree

/-- The commit of a lost insert always leaves a gap. -/
theorem not_gapFree_of_commitReply {start : Nat} {system : PlacementSystem}
    (serialised : system.Serialised) (gapFree : system.db.GapFree start)
    {call attempt number : Nat} {winner : PlaceOrderResult}
    (lost : system.phases call = .lost attempt number winner) :
    ¬ PlacementDb.GapFree start
      { system.db with sequence := some (number + 1) } := by
  intro gapFreeAfter
  have issued : number = system.db.nextSequence := by
    apply serialised.number call number
    rw [lost]
    rfl
  have before := gapFree.next
  have after := gapFreeAfter.next
  simp only [PlacementDb.nextSequence, Option.getD_some] at after
  omega

/-! ## A burned number -/

/-- Reference tables with one retailer, one company, one currency and one
product. -/
def oneProduct : ReferenceData where
  retailers code := code == "RET-01"
  companies code := code == "COM-01"
  currencies code := code == "EUR"
  products code :=
    if code = "SKU-1" then some ⟨"one", ⟨500, .eur⟩⟩ else none

/-- The first two calls repeat one request; the third has no `requestId`. -/
def repeatedRequest : Nat → PlaceOrderCommand := fun call =>
  { requestId := if call < 2 then some ⟨7⟩ else none
    retailerCode := "RET-01"
    companyCode := "COM-01"
    currency := "EUR"
    lines := [⟨"SKU-1", 2, none, none⟩]
    orderDiscount := none
    notes := none }

/-- One call's own steps up to its commit. -/
def placing (call : Nat) : List PlacementAction :=
  [.openTransaction call, .allocate call, .insert call ⟨call⟩ (10 * call),
    .commit call]

/-- What a call does before its transaction, with stock available. -/
def accepting (call : Nat) : List PlacementAction :=
  [.lookUp call, .checkStock call (.reply true [])]

theorem empty_gapFree : PlacementDb.empty.GapFree 1 :=
  ⟨by decide, by decide⟩

/-- Two calls with one `requestId` pass the lookup; the second loses the insert
and commits the number it allocated.  The next order skips it. -/
theorem references_gapFree_not_always :
    ∃ system, Reachable (step oneProduct repeatedRequest) unguarded
        (initial .empty) system ∧
      system.db.orders.map OrderRow.sequence = [1, 3] ∧
      ¬ system.db.GapFree 1 := by
  have executed : (execute (step oneProduct repeatedRequest)
      (fun state action => decide (unguarded state action)) (initial .empty)
      (accepting 0 ++ accepting 1 ++ placing 0 ++ placing 1 ++
        accepting 2 ++ placing 2)).map
        (fun system => system.db.orders.map OrderRow.sequence) =
      some [1, 3] := by decide +kernel
  rcases Option.map_eq_some_iff.mp executed with ⟨system, reached, references⟩
  have gap : ¬ system.db.GapFree 1 := by
    intro gapFree
    have count : system.db.orders.length = 2 := by
      have lengths := congrArg List.length references
      rw [List.length_map] at lengths
      exact lengths
    have without := gapFree.references
    rw [references, count] at without
    revert without
    decide
  exact ⟨system, reachable_of_execute reached, references, gap⟩

/-- Two orders placed one after the other by calls without a shared
`requestId`. -/
theorem references_gapFree_of_two_orders :
    ∃ system, Reachable (step oneProduct repeatedRequest)
        (UnclaimedInsert repeatedRequest) (initial .empty) system ∧
      system.db.orders.length = 2 ∧ system.db.GapFree 1 := by
  have executed : (execute (step oneProduct repeatedRequest)
      (fun state action =>
        decide (UnclaimedInsert repeatedRequest state action)) (initial .empty)
      (accepting 0 ++ placing 0 ++ accepting 2 ++ placing 2)).map
        (fun system => system.db.orders.length) = some 2 := by decide +kernel
  rcases Option.map_eq_some_iff.mp executed with ⟨system, reached, count⟩
  have path := reachable_of_execute reached
  exact ⟨system, path, count, references_gapFree empty_gapFree path⟩

end PlacementSystem

end OrderToCash.Orders
