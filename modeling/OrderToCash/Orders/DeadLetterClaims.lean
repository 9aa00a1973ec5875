import OrderToCash.Orders.CommandLifecycle
import Mathlib.Data.List.Nodup

/-!
# Dead letters of commands

A row carries the mark of its dead letter, and the claim that sets the mark is
the only way to a run of `onFirstPark`; so no row has two.  Parking the row and
claiming its dead letter are two statements, though, and the claim asks for the
mark alone: what another dispatch reports between the two is not seen.
-/

namespace OrderToCash.Orders

open OrderToCash.Contracts
open OrderToCash.Kernel
open OrderToCash.Transition

/-- The row a dead letter is claimed for. -/
def DeadLetterClaim.row (claim : DeadLetterClaim) : OrderNumber × SagaCommandKind :=
  (claim.order, claim.kind)

namespace CommandSystem

variable {config : SagaCommandDispatcherConfig} {system system' : CommandSystem}
  {action : CommandAction} {order : OrderNumber} {kind : SagaCommandKind}

/-! ## At most one run for a row -/

/-- The dispatch of that index is for that row. -/
def DispatchFor (system : CommandSystem) (index : Nat) (order : OrderNumber)
    (kind : SagaCommandKind) : Prop :=
  ∃ dispatch, system.dispatches[index]? = some dispatch ∧ dispatch.IsFor order kind

/-- The row is marked. -/
def DeadLettered (system : CommandSystem) (order : OrderNumber)
    (kind : SagaCommandKind) : Prop :=
  ∃ row, system.db.sagaCommands order kind = some row ∧ row.deadLettered = true

instance (system : CommandSystem) (order : OrderNumber) (kind : SagaCommandKind) :
    Decidable (system.DeadLettered order kind) :=
  inferInstanceAs (Decidable
    (∃ row ∈ system.db.sagaCommands order kind, row.deadLettered = true))

/-- The dispatch of that index is about to run `onFirstPark`. -/
def IsDeadLettering (system : CommandSystem) (index : Nat) : Prop :=
  ∃ dispatch status, system.dispatches[index]? = some dispatch ∧
    dispatch.phase = .deadLettering status

structure Claims (system : CommandSystem) : Prop where
  once : (system.claims.map DeadLetterClaim.row).Nodup
  marked : ∀ claim ∈ system.claims, system.DeadLettered claim.order claim.kind
  own : ∀ claim ∈ system.claims,
    system.DispatchFor claim.dispatch claim.order claim.kind
  pending : ∀ index (dispatch : CommandDispatch) status,
    system.dispatches[index]? = some dispatch →
    dispatch.phase = .deadLettering status →
    ⟨index, dispatch.order, dispatch.kind, status⟩ ∈ system.claims
  ran : ∀ claim ∈ system.firstParks, claim ∈ system.claims
  left : ∀ claim ∈ system.firstParks, ¬ system.IsDeadLettering claim.dispatch
  runOnce : system.firstParks.Nodup

theorem claims_initial : Claims initial := by
  constructor
  · exact List.nodup_nil
  · intro claim claimMem
    cases claimMem
  · intro claim claimMem
    cases claimMem
  · intro index dispatch status found
    cases found
  · intro claim claimMem
    cases claimMem
  · intro claim claimMem
    cases claimMem
  · exact List.nodup_nil

theorem deadLettered_step (change : Change config system action system')
    (deadLettered : system.DeadLettered order kind) :
    system'.DeadLettered order kind := by
  rcases deadLettered with ⟨row, stored, isMarked⟩
  rcases row_step change stored with ⟨row', stored', rowStep⟩
  exact ⟨row', stored', rowStep.deadLettered isMarked⟩

/-- A dispatch keeps its place and its command. -/
theorem dispatch_kept {index : Nat} {dispatch : CommandDispatch}
    (change : Change config system action system')
    (found : system.dispatches[index]? = some dispatch) :
    ∃ after, system'.dispatches[index]? = some after ∧ dispatch.Continues after := by
  have stays : ∃ after, system.dispatches[index]? = some after ∧
      dispatch.Continues after := ⟨dispatch, found, rfl, rfl, rfl⟩
  have within := (List.getElem?_eq_some_iff.mp found).1
  have set : ∀ (place : Nat) (before next : CommandDispatch),
      system.dispatches[place]? = some before → before.Continues next →
      ∃ after, (system.dispatches.set place next)[index]? = some after ∧
        dispatch.Continues after := by
    intro place before next foundBefore continues
    by_cases same : place = index
    · subst same
      rw [found, Option.some.injEq] at foundBefore
      subst foundBefore
      exact ⟨next, List.getElem?_set_self within, continues⟩
    · rw [List.getElem?_set_ne same]
      exact stays
  cases change with
  | enqueued => exact stays
  | swept => exact stays
  | ignored => exact stays
  | started =>
      apply Exists.intro dispatch
      apply And.intro _ ⟨rfl, rfl, rfl⟩
      exact (List.getElem?_append_left within).trans found
  | moved _ _ place before next foundBefore continues =>
      exact set place before next foundBefore continues
  | succeeded place before foundBefore =>
      exact set place before _ foundBefore (before.enter_continues _)
  | markedSent place report before next foundBefore _ continues =>
      exact set place before next foundBefore continues
  | markedRejected place report before next message foundBefore continues =>
      exact set place before next foundBefore continues
  | parked place report before next foundBefore continues =>
      exact set place before next foundBefore continues
  | claimed place before db foundBefore =>
      exact set place before _ foundBefore (before.enter_continues _)
  | claimMissed place report before next foundBefore continues =>
      exact set place before next foundBefore continues
  | firstParked place before status foundBefore =>
      exact set place before _ foundBefore (before.enter_continues _)

/-- A phase that a step brings about, other than the one a dispatch goes on to
when nothing is pending for it, is brought about by what sets it. -/
theorem phase_step {index : Nat} {after : CommandDispatch}
    (change : Change config system action system')
    (found : system'.dispatches[index]? = some after) (pending : ¬ after.Aside) :
    system.dispatches[index]? = some after ∨
      after.phase = .succeeded ∨
      (after.phase = .parked ∧
        system.reportedStatus after.order after.kind action = some .parked ∧
        system.db.commandStatus after.order after.kind ≠ some .sent) ∨
      ∃ dispatch db, system.dispatches[index]? = some dispatch ∧
        system.db.claimDeadLetter dispatch.order dispatch.kind = some db ∧
        after = dispatch.enter
          (.deadLettering
            (system.db.commandStatus dispatch.order dispatch.kind)) ∧
        system'.claims = system.claims ++
          [⟨index, dispatch.order, dispatch.kind,
            system.db.commandStatus dispatch.order dispatch.kind⟩] := by
  have set : ∀ (place : Nat) (before next : CommandDispatch),
      system.dispatches[place]? = some before →
      (system.dispatches.set place next)[index]? = some after →
      (index = place ∧ after = next) ∨ system.dispatches[index]? = some after := by
    intro place before next foundBefore foundAfter
    by_cases same : place = index
    · subst same
      apply Or.inl
      apply And.intro rfl
      rw [List.getElem?_set_self (List.getElem?_eq_some_iff.mp foundBefore).1]
        at foundAfter
      exact (Option.some.inj foundAfter).symm
    · rw [List.getElem?_set_ne same] at foundAfter
      exact Or.inr foundAfter
  have kept : ∀ (place : Nat) (before next : CommandDispatch),
      system.dispatches[place]? = some before → next.Aside →
      (system.dispatches.set place next)[index]? = some after →
      system.dispatches[index]? = some after := by
    intro place before next foundBefore isAside foundAfter
    rcases set place before next foundBefore foundAfter with ⟨_, isNext⟩ | old
    · exact absurd (isNext ▸ isAside) pending
    · exact old
  cases change with
  | enqueued => exact Or.inl found
  | swept => exact Or.inl found
  | ignored => exact Or.inl found
  | started origin order kind due row =>
      rcases Nat.lt_or_ge index system.dispatches.length with within | beyond
      · apply Or.inl
        rw [← found]
        exact (List.getElem?_append_left within).symm
      · have member := List.mem_of_getElem?
          ((List.getElem?_append_right beyond).symm.trans found)
        rw [List.mem_singleton.mp member] at pending
        exact absurd (CommandDispatch.attempting_aside _ config 1) pending
  | moved _ _ place before next foundBefore _ isAside =>
      exact Or.inl (kept place before next foundBefore isAside found)
  | succeeded place before foundBefore =>
      rcases set place before _ foundBefore found with ⟨_, isNext⟩ | old
      · rw [isNext]
        exact Or.inr (Or.inl rfl)
      · exact Or.inl old
  | markedSent place report before next foundBefore _ _ isAside =>
      exact Or.inl (kept place before next foundBefore isAside found)
  | markedRejected place report before next message foundBefore _ isAside =>
      exact Or.inl (kept place before next foundBefore isAside found)
  | parked place report before next foundBefore continues outcome =>
      rcases outcome with isAside | ⟨isParked, applied, unsent⟩
      · exact Or.inl (kept place before next foundBefore isAside found)
      · rcases set place before next foundBefore found with ⟨_, rfl⟩ | old
        · apply Or.inr
          apply Or.inr
          apply Or.inl
          rw [continues.order, continues.kind]
          apply And.intro isParked
          exact ⟨if_pos ((reports_iff foundBefore).mpr ⟨applied, rfl, rfl⟩), unsent⟩
        · exact Or.inl old
  | claimed place before db foundBefore _ updated =>
      rcases set place before _ foundBefore found with ⟨rfl, isNext⟩ | old
      · apply Or.inr
        apply Or.inr
        apply Or.inr
        exact ⟨before, db, foundBefore, updated, isNext, rfl⟩
      · exact Or.inl old
  | claimMissed place report before next foundBefore _ isAside =>
      exact Or.inl (kept place before next foundBefore isAside found)
  | firstParked place before status foundBefore =>
      exact Or.inl (kept place before (before.enter (.returned .parked)) foundBefore
        trivial found)

theorem claims_step (change : Change config system action system') :
    system'.claims = system.claims ∨
      ∃ (index : Nat) (dispatch : CommandDispatch) (db : OrdersDb),
        system.dispatches[index]? = some dispatch ∧ dispatch.phase = .parked ∧
        system.db.claimDeadLetter dispatch.order dispatch.kind = some db ∧
        system'.db = db ∧
        system'.claims = system.claims ++
          [⟨index, dispatch.order, dispatch.kind,
            system.db.commandStatus dispatch.order dispatch.kind⟩] := by
  cases change with
  | claimed index dispatch db found parked updated =>
      exact Or.inr ⟨index, dispatch, db, found, parked, updated, rfl, rfl⟩
  | _ => exact Or.inl rfl

theorem firstParks_step (change : Change config system action system') :
    system'.firstParks = system.firstParks ∨
      ∃ (index : Nat) (dispatch : CommandDispatch)
        (status : Option SagaCommandStatus),
        system.dispatches[index]? = some dispatch ∧
        dispatch.phase = .deadLettering status ∧
        system'.claims = system.claims ∧
        system'.dispatches[index]? = some (dispatch.enter (.returned .parked)) ∧
        system'.firstParks = system.firstParks ++
          [⟨index, dispatch.order, dispatch.kind, status⟩] := by
  cases change with
  | firstParked index dispatch status found claimed =>
      have within := (List.getElem?_eq_some_iff.mp found).1
      exact Or.inr ⟨index, dispatch, status, found, claimed, rfl,
        List.getElem?_set_self within, rfl⟩
  | _ => exact Or.inl rfl

theorem unmarked_of_claim {db : OrdersDb}
    (updated : system.db.claimDeadLetter order kind = some db) :
    ¬ system.DeadLettered order kind := by
  rintro ⟨row, stored, isMarked⟩
  rcases OrdersDb.claimDeadLetter_sagaCommands updated with
    ⟨before, storedBefore, unmarked, _⟩
  rw [stored, Option.some.injEq] at storedBefore
  rw [storedBefore, unmarked] at isMarked
  cases isMarked

theorem dispatchFor_step {index : Nat}
    (change : Change config system action system')
    (isFor : system.DispatchFor index order kind) :
    system'.DispatchFor index order kind := by
  rcases isFor with ⟨dispatch, found, sameOrder, sameKind⟩
  rcases dispatch_kept change found with ⟨after, foundAfter, continues⟩
  exact ⟨after, foundAfter, continues.order.trans sameOrder,
    continues.kind.trans sameKind⟩

/-- Where a dispatch is about to run `onFirstPark`, it was before, or it has just
claimed the dead letter. -/
theorem deadLettering_step {index : Nat} {after : CommandDispatch}
    {status : Option SagaCommandStatus}
    (change : Change config system action system')
    (found : system'.dispatches[index]? = some after)
    (phase : after.phase = .deadLettering status) :
    system.dispatches[index]? = some after ∨
      (¬ system.DeadLettered after.order after.kind ∧
        system.DispatchFor index after.order after.kind ∧
        system'.claims =
          system.claims ++ [⟨index, after.order, after.kind, status⟩]) := by
  have pending : ¬ after.Aside := by
    unfold CommandDispatch.Aside
    rw [phase]
    exact id
  rcases phase_step change found pending with
    old | succeeded | ⟨parked, _⟩ | ⟨dispatch, db, foundDispatch, updated, isNext, claims⟩
  · exact Or.inl old
  · rw [phase] at succeeded
    cases succeeded
  · rw [phase] at parked
    cases parked
  · apply Or.inr
    subst isNext
    cases phase
    exact ⟨unmarked_of_claim updated, ⟨dispatch, foundDispatch, rfl, rfl⟩, claims⟩

namespace Claims

theorem mono (change : Change config system action system') :
    system.claims ⊆ system'.claims := by
  rcases claims_step change with same | ⟨_, _, _, _, _, _, _, added⟩
  · rw [same]
    exact List.Subset.refl _
  · rw [added]
    exact List.subset_append_left _ _

/-- A row is claimed while it is not marked, and no claim before was of it. -/
theorem once_step (claims : Claims system)
    (change : Change config system action system') :
    (system'.claims.map DeadLetterClaim.row).Nodup := by
  rcases claims_step change with
    same | ⟨index, dispatch, db, _, _, updated, _, added⟩
  · rw [same]
    exact claims.once
  · rw [added, List.map_append]
    apply List.nodup_append.mpr
    apply And.intro claims.once
    apply And.intro (List.nodup_singleton _)
    intro row rowMem other otherMem same
    rcases List.mem_map.mp rowMem with ⟨claim, claimMem, rfl⟩
    rw [List.mem_singleton.mp otherMem] at same
    have sameOrder : claim.order = dispatch.order := congrArg Prod.fst same
    have sameKind : claim.kind = dispatch.kind := congrArg Prod.snd same
    apply unmarked_of_claim updated
    rw [← sameOrder, ← sameKind]
    exact claims.marked claim claimMem

theorem marked_step (claims : Claims system)
    (change : Change config system action system') {claim : DeadLetterClaim}
    (claimMem : claim ∈ system'.claims) :
    system'.DeadLettered claim.order claim.kind := by
  rcases claims_step change with
    same | ⟨index, dispatch, db, _, _, updated, isAfter, added⟩
  · rw [same] at claimMem
    exact deadLettered_step change (claims.marked claim claimMem)
  · rw [added] at claimMem
    rcases List.mem_append.mp claimMem with old | isNew
    · exact deadLettered_step change (claims.marked claim old)
    · rw [List.mem_singleton.mp isNew]
      rcases OrdersDb.claimDeadLetter_sagaCommands updated with
        ⟨row, stored, _, isMarked⟩
      apply Exists.intro { row with deadLettered := true }
      rw [isAfter, isMarked, OrdersDb.setSagaCommand_sagaCommands,
        if_pos ⟨rfl, rfl⟩]
      exact ⟨rfl, rfl⟩

theorem own_step (claims : Claims system)
    (change : Change config system action system') {claim : DeadLetterClaim}
    (claimMem : claim ∈ system'.claims) :
    system'.DispatchFor claim.dispatch claim.order claim.kind := by
  apply dispatchFor_step change
  rcases claims_step change with same | ⟨index, dispatch, db, found, _, _, _, added⟩
  · rw [same] at claimMem
    exact claims.own claim claimMem
  · rw [added] at claimMem
    rcases List.mem_append.mp claimMem with old | isNew
    · exact claims.own claim old
    · rw [List.mem_singleton.mp isNew]
      exact ⟨dispatch, found, rfl, rfl⟩

theorem pending_step (claims : Claims system)
    (change : Change config system action system') {index : Nat}
    {after : CommandDispatch} {status : Option SagaCommandStatus}
    (found : system'.dispatches[index]? = some after)
    (phase : after.phase = .deadLettering status) :
    ⟨index, after.order, after.kind, status⟩ ∈ system'.claims := by
  rcases deadLettering_step change found phase with old | ⟨_, _, added⟩
  · exact mono change (claims.pending index after status old phase)
  · rw [added]
    exact List.mem_append_right _ (List.mem_singleton.mpr rfl)

theorem ran_step (claims : Claims system)
    (change : Change config system action system') {claim : DeadLetterClaim}
    (claimMem : claim ∈ system'.firstParks) : claim ∈ system'.claims := by
  rcases firstParks_step change with
    same | ⟨index, dispatch, status, found, phase, _, _, added⟩
  · rw [same] at claimMem
    exact mono change (claims.ran claim claimMem)
  · rw [added] at claimMem
    rcases List.mem_append.mp claimMem with old | isNew
    · exact mono change (claims.ran claim old)
    · rw [List.mem_singleton.mp isNew]
      exact mono change (claims.pending index dispatch status found phase)

/-- A dispatch that has run `onFirstPark` is not about to run it again: the row of
an earlier run is marked, and the dispatch is for that row. -/
theorem not_again (claims : Claims system)
    (change : Change config system action system') {claim : DeadLetterClaim}
    (ran : claim ∈ system.firstParks) : ¬ system'.IsDeadLettering claim.dispatch := by
  rintro ⟨after, status, found, phase⟩
  rcases deadLettering_step change found phase with old | ⟨unmarked, isFor, _⟩
  · exact claims.left claim ran ⟨after, status, old, phase⟩
  · rcases claims.own claim (claims.ran claim ran) with
      ⟨dispatch, foundDispatch, sameOrder, sameKind⟩
    rcases isFor with ⟨other, foundOther, otherOrder, otherKind⟩
    rw [foundDispatch, Option.some.injEq] at foundOther
    subst foundOther
    apply unmarked
    rw [← otherOrder, ← otherKind, sameOrder, sameKind]
    exact claims.marked claim (claims.ran claim ran)

theorem left_step (claims : Claims system)
    (change : Change config system action system') {claim : DeadLetterClaim}
    (claimMem : claim ∈ system'.firstParks) :
    ¬ system'.IsDeadLettering claim.dispatch := by
  rcases firstParks_step change with
    same | ⟨index, dispatch, ranStatus, _, _, _, returned, added⟩
  · rw [same] at claimMem
    exact claims.not_again change claimMem
  · rw [added] at claimMem
    rcases List.mem_append.mp claimMem with old | isNew
    · exact claims.not_again change old
    · rintro ⟨after, status, found, phase⟩
      rw [List.mem_singleton.mp isNew, returned, Option.some.injEq] at found
      subst found
      cases phase

theorem runOnce_step (claims : Claims system)
    (change : Change config system action system') : system'.firstParks.Nodup := by
  rcases firstParks_step change with
    same | ⟨index, dispatch, status, found, phase, _, _, added⟩
  · rw [same]
    exact claims.runOnce
  · rw [added]
    apply List.nodup_append.mpr
    apply And.intro claims.runOnce
    apply And.intro (List.nodup_singleton _)
    intro claim claimMem other otherMem same
    rw [List.mem_singleton.mp otherMem] at same
    subst same
    exact claims.left _ claimMem ⟨dispatch, status, found, phase⟩

end Claims

theorem claims_kept (claims : Claims system)
    (change : Change config system action system') : Claims system' where
  once := claims.once_step change
  marked _ := claims.marked_step change
  own _ := claims.own_step change
  pending _ _ _ := claims.pending_step change
  ran _ := claims.ran_step change
  left _ := claims.left_step change
  runOnce := claims.runOnce_step change

/-- No row has two runs of `onFirstPark`. -/
theorem Claims.firstParks_once (claims : Claims system) :
    (system.firstParks.map DeadLetterClaim.row).Nodup := by
  apply List.Nodup.map_on _ claims.runOnce
  intro first firstMem second secondMem same
  exact List.inj_on_of_nodup_map claims.once (claims.ran first firstMem)
    (claims.ran second secondMem) same

/-! ## What a claim finds -/

/-- The dispatch has parked the row and stands before its claim, which the row's
mark would let pass. -/
def AwaitsClaim (system : CommandSystem) (dispatch : CommandDispatch) : Prop :=
  dispatch.phase = .parked ∧ ¬ system.DeadLettered dispatch.order dispatch.kind

instance (system : CommandSystem) (dispatch : CommandDispatch) :
    Decidable (system.AwaitsClaim dispatch) :=
  inferInstanceAs (Decidable (_ ∧ _))

/-- Neither a success nor a rejection is reported of a row that another dispatch
has parked and whose dead letter it is about to claim. -/
def ReportsApart (system : CommandSystem) (action : CommandAction) : Prop :=
  ∀ dispatch ∈ system.dispatches, system.AwaitsClaim dispatch →
    system.reportedStatus dispatch.order dispatch.kind action ≠ some .sent ∧
      system.reportedStatus dispatch.order dispatch.kind action ≠ some .rejected

instance (system : CommandSystem) (action : CommandAction) :
    Decidable (system.ReportsApart action) :=
  inferInstanceAs (Decidable (∀ dispatch ∈ system.dispatches, _ → _ ∧ _))

structure ParkedApart (config : SagaCommandDispatcherConfig)
    (system : CommandSystem) : Prop where
  sound : Sound config system
  claims : Claims system
  awaiting : ∀ dispatch ∈ system.dispatches, system.AwaitsClaim dispatch →
    system.db.commandStatus dispatch.order dispatch.kind = some .parked
  found : ∀ claim ∈ system.claims, claim.status = some .parked

theorem parkedApart_initial : ParkedApart config initial := by
  constructor
  · exact sound_initial
  · exact claims_initial
  · intro dispatch dispatchMem
    cases dispatchMem
  · intro claim claimMem
    cases claimMem

theorem parkedApart_step (parkedApart : ParkedApart config system)
    (apart : ReportsApart system action)
    (change : Change config system action system') : ParkedApart config system' := by
  constructor
  · exact sound_step parkedApart.sound change
  · exact claims_kept parkedApart.claims change
  · rintro after afterMem ⟨parked, unmarked⟩
    have unmarkedBefore : ¬ system.DeadLettered after.order after.kind :=
      fun isMarked => unmarked (deadLettered_step change isMarked)
    rcases List.mem_iff_getElem?.mp afterMem with ⟨index, foundAfter⟩
    have pending : ¬ after.Aside := by
      unfold CommandDispatch.Aside
      rw [parked]
      exact id
    rcases phase_step change foundAfter pending with
      old | succeeded | ⟨_, reported, unsent⟩ | ⟨dispatch, db, _, _, isNext, _⟩
    · have oldMem := List.mem_of_getElem? old
      have awaits : system.AwaitsClaim after := ⟨parked, unmarkedBefore⟩
      have status := parkedApart.awaiting after oldMem awaits
      rcases apart after oldMem awaits with ⟨notSent, notRejected⟩
      rw [commandStatus_step change status, if_neg (by decide)]
      cases reported : system.reportedStatus after.order after.kind action with
      | none => rfl
      | some status =>
          cases status with
          | pending => exact absurd reported reportedStatus_ne_pending
          | sent => exact absurd reported notSent
          | rejected => exact absurd reported notRejected
          | parked => rfl
    · rw [parked] at succeeded
      cases succeeded
    · cases committed : system.db.commandStatus after.order after.kind with
      | none =>
          -- Every dispatch is of a stored row.
          rcases dispatch_step change afterMem with ⟨before, beforeMem, continues⟩ | new
          · rcases parkedApart.sound.read before beforeMem with ⟨row, stored, _⟩
            rw [continues.order, continues.kind, OrdersDb.commandStatus, stored]
              at committed
            cases committed
          · rw [OrdersDb.commandStatus, new.1] at committed
            cases committed
      | some status =>
          have notSent : status ≠ .sent := by
            intro sent
            rw [sent] at committed
            exact unsent committed
          rw [commandStatus_step change committed, if_neg notSent, reported]
          rfl
    · rw [isNext] at parked
      cases parked
  · intro claim claimMem
    rcases claims_step change with
      same | ⟨index, dispatch, db, found, parked, updated, _, added⟩
    · rw [same] at claimMem
      exact parkedApart.found claim claimMem
    · rw [added] at claimMem
      rcases List.mem_append.mp claimMem with old | isNew
      · exact parkedApart.found claim old
      · rw [List.mem_singleton.mp isNew]
        exact parkedApart.awaiting dispatch (List.mem_of_getElem? found)
          ⟨parked, unmarked_of_claim updated⟩

theorem parkedApart_of_reachable
    (reached : Reachable (step config) ReportsApart initial system) :
    ParkedApart config system :=
  reached.invariant parkedApart_initial fun _ _ _ parkedApart apart stepped =>
    parkedApart_step parkedApart apart (step_change stepped)

/-- No run of `onFirstPark` was claimed for a row already `sent` or `rejected`. -/
def ClaimedWhileOwed (system : CommandSystem) : Prop :=
  ∀ run ∈ system.firstParks,
    run.status ≠ some .sent ∧ run.status ≠ some .rejected

/-- In every run, `onFirstPark` runs at most once for a row; and where reports
keep apart from claims, never for a row that was sent or rejected at its claim. -/
theorem deadLettering_claims
    (reached : Reachable (step config) unguarded initial system) :
    (system.firstParks.map DeadLetterClaim.row).Nodup ∧
      (Reachable (step config) ReportsApart initial system →
        system.ClaimedWhileOwed) := by
  have claims : Claims system :=
    reached.invariant claims_initial fun _ _ _ claims _ stepped =>
      claims_kept claims (step_change stepped)
  apply And.intro claims.firstParks_once
  intro guarded run runMem
  have parkedApart := parkedApart_of_reachable guarded
  rw [parkedApart.found run (claims.ran run runMem)]
  exact ⟨nofun, nofun⟩

/-! ## Two dispatches of one row -/

/-- The fast path and a sweeper dispatch the same row; the first times out. -/
def firstTimesOut : List CommandAction :=
  [ oweDespatch, .start .fastPath ⟨1⟩ .despatchCreate, .claimDue ⟨1⟩ .despatchCreate,
    .start .sweeper ⟨1⟩ .despatchCreate, .reply 0 (.timeout "timed out"),
    .park 0 .answered ]

/-- The second succeeds before the first has claimed the dead letter. -/
def successBeforeClaim : List CommandAction :=
  firstTimesOut ++
    [ .reply 1 .success, .markSent 1 .answered, .claimDeadLetter 0 .answered,
      .onFirstPark 0 ]

/-- A command that was sent is dead-lettered. -/
theorem sent_row_dead_lettered :
    ¬ (∀ (config : SagaCommandDispatcherConfig) (system : CommandSystem),
      Reachable (step config) unguarded initial system →
        (system.firstParks.map DeadLetterClaim.row).Nodup ∧
          system.ClaimedWhileOwed) := by
  intro claimed
  have runs : (execute (step ⟨1⟩)
      (fun state action => decide (unguarded state action)) initial
        successBeforeClaim).map CommandSystem.firstParks =
      some [⟨0, ⟨1⟩, .despatchCreate, some .sent⟩] := by
    decide
  rcases Option.map_eq_some_iff.mp runs with ⟨system, ran, firstParks⟩
  have owed := (claimed ⟨1⟩ system (reachable_of_execute ran)).2
    ⟨0, ⟨1⟩, .despatchCreate, some .sent⟩
    (by rw [firstParks]; exact List.mem_singleton.mpr rfl)
  exact owed.1 rfl

/-- The second succeeds once the dead letter is claimed. -/
def successAfterClaim : List CommandAction :=
  firstTimesOut ++
    [ .claimDeadLetter 0 .answered, .reply 1 .success, .markSent 1 .answered,
      .onFirstPark 0 ]

theorem success_after_claim_owed :
    ∃ system,
      execute (step ⟨1⟩) (fun state action => decide (ReportsApart state action))
          initial successAfterClaim = some system ∧
      system.firstParks = [⟨0, ⟨1⟩, .despatchCreate, some .parked⟩] ∧
      system.ClaimedWhileOwed := by
  have runs : (execute (step ⟨1⟩)
      (fun state action => decide (ReportsApart state action)) initial
        successAfterClaim).map CommandSystem.firstParks =
      some [⟨0, ⟨1⟩, .despatchCreate, some .parked⟩] := by
    decide
  rcases Option.map_eq_some_iff.mp runs with ⟨system, ran, firstParks⟩
  have guarded := reachable_of_execute ran
  have reached : Reachable (step ⟨1⟩) unguarded initial system :=
    guarded.weaken fun _ _ _ => trivial
  exact ⟨system, ran, firstParks, (deadLettering_claims reached).2 guarded⟩

end CommandSystem

end OrderToCash.Orders
