import OrderToCash.Orders.CommandDispatch

/-!
# The life of a command row

The conditional updates of a row spare it once it is `sent` and at no other
time, and a dispatch stops at its start for a `sent` row only.  So `sent` is
final and told of a success, while `rejected` is final in just those runs that
report nothing more of a rejected row and start nothing for it.
-/

namespace OrderToCash.Orders

open OrderToCash.Contracts
open OrderToCash.Kernel
open OrderToCash.Transition

/-! ## One row under one action -/

/-- A conditional update spares a row that is `sent`. -/
def unlessSent (update : SagaCommandRow → SagaCommandRow) (row : SagaCommandRow) :
    SagaCommandRow :=
  if row.status = .sent then row else update row

namespace OrdersDb

variable {db : OrdersDb} {order other : OrderNumber} {kind otherKind : SagaCommandKind}

theorem setSagaCommand_sagaCommands (row : SagaCommandRow) :
    (db.setSagaCommand order kind row).sagaCommands other otherKind =
      if order = other ∧ kind = otherKind then
        some row
      else
        db.sagaCommands other otherKind := by
  unfold setSagaCommand
  by_cases sameOrder : order = other
  · subst sameOrder
    by_cases sameKind : kind = otherKind
    · subst sameKind
      simp
    · simp [sameKind, Function.update_of_ne (Ne.symm sameKind)]
  · simp [sameOrder, Function.update_of_ne (Ne.symm sameOrder)]

theorem enqueue_sagaCommands {row stored : SagaCommandRow}
    (isStored : db.sagaCommands other otherKind = some stored) :
    (db.enqueue order kind row).sagaCommands other otherKind = some stored := by
  unfold enqueue
  split
  · rename_i absent
    rw [setSagaCommand_sagaCommands]
    split
    · rename_i same
      rw [same.1, same.2, isStored] at absent
      cases absent
    · exact isStored
  · exact isStored

theorem enqueue_of_absent {row stored : SagaCommandRow}
    (absent : db.sagaCommands other otherKind = none)
    (isStored : (db.enqueue order kind row).sagaCommands other otherKind =
      some stored) :
    stored = row := by
  unfold enqueue at isStored
  split at isStored
  · rw [setSagaCommand_sagaCommands] at isStored
    split at isStored
    · exact (Option.some.inj isStored).symm
    · rw [absent] at isStored
      cases isStored
  · rw [absent] at isStored
    cases isStored

theorem afterUpdate_sagaCommands (update : SagaCommandRow → SagaCommandRow)
    (report : UpdateReport) :
    (db.afterUpdate (db.updateUnlessSent order kind update) report).sagaCommands
        other otherKind =
      if report.applied = true ∧ order = other ∧ kind = otherKind then
        (db.sagaCommands other otherKind).map (unlessSent update)
      else
        db.sagaCommands other otherKind := by
  unfold afterUpdate updateUnlessSent
  by_cases applied : report.applied = true
  · rw [if_pos applied]
    by_cases same : order = other ∧ kind = otherKind
    · rw [if_pos ⟨applied, same⟩]
      rcases same with ⟨rfl, rfl⟩
      cases stored : db.sagaCommands order kind with
      | none => simp [stored]
      | some row =>
          by_cases sent : row.status = .sent
          · simp [sent, stored, unlessSent]
          · simp [sent, unlessSent, setSagaCommand_sagaCommands]
    · rw [if_neg fun both => same both.2]
      cases stored : db.sagaCommands order kind with
      | none => simp
      | some row =>
          by_cases sent : row.status = .sent
          · simp [sent]
          · simp [sent, setSagaCommand_sagaCommands, same]
  · rw [if_neg applied, if_neg fun both => applied both.1]

/-- A claim of the dead letter changes nothing else of a row. -/
theorem claimDeadLetter_sagaCommands {db' : OrdersDb}
    (claimed : db.claimDeadLetter order kind = some db') :
    ∃ row, db.sagaCommands order kind = some row ∧ row.deadLettered = false ∧
      db' = db.setSagaCommand order kind { row with deadLettered := true } := by
  unfold claimDeadLetter at claimed
  split at claimed
  · cases claimed
  · rename_i row stored
    split at claimed
    · cases claimed
    · rename_i fresh
      cases claimed
      exact ⟨row, stored, Bool.eq_false_iff.mpr fresh, rfl⟩

end OrdersDb

namespace CommandSystem

/-- The statement of a dispatch of that index is applied to the row. -/
def Reports (system : CommandSystem) (order : OrderNumber) (kind : SagaCommandKind)
    (index : Nat) (report : UpdateReport) : Prop :=
  report.applied = true ∧
    ∃ dispatch ∈ system.dispatches[index]?, dispatch.IsFor order kind

instance (system : CommandSystem) (order : OrderNumber) (kind : SagaCommandKind)
    (index : Nat) (report : UpdateReport) :
    Decidable (system.Reports order kind index report) :=
  inferInstanceAs (Decidable (_ ∧ _))

/-- The status an action reports for a row, unless it is `sent`. -/
def reportedStatus (system : CommandSystem) (order : OrderNumber)
    (kind : SagaCommandKind) : CommandAction → Option SagaCommandStatus
  | .markSent index report =>
      if system.Reports order kind index report then some .sent else none
  | .markRejected index report =>
      if system.Reports order kind index report then some .rejected else none
  | .park index report =>
      if system.Reports order kind index report then some .parked else none
  | _ => none

/-- What an action leaves of a stored row. -/
structure RowStep (system : CommandSystem) (action : CommandAction)
    (order : OrderNumber) (kind : SagaCommandKind) (row row' : SagaCommandRow) :
    Prop where
  payload : row'.payload = row.payload
  status : row'.status =
    if row.status = .sent then
      .sent
    else
      (system.reportedStatus order kind action).getD row.status
  deadLettered : row.deadLettered = true → row'.deadLettered = true

variable {config : SagaCommandDispatcherConfig} {system system' : CommandSystem}
  {action : CommandAction} {order : OrderNumber} {kind : SagaCommandKind}

theorem reports_iff {index : Nat} {report : UpdateReport} {dispatch : CommandDispatch}
    (found : system.dispatches[index]? = some dispatch) :
    system.Reports order kind index report ↔
      report.applied = true ∧ dispatch.order = order ∧ dispatch.kind = kind := by
  unfold Reports CommandDispatch.IsFor
  rw [found]
  simp

theorem RowStep.refl {row : SagaCommandRow}
    (silent : system.reportedStatus order kind action = none) :
    RowStep system action order kind row row := by
  constructor
  · rfl
  · rw [silent]
    split
    · assumption
    · rfl
  · exact id

/-- A conditional update that sets the status, and no payload. -/
theorem rowStep_of_update {index : Nat} {report : UpdateReport}
    {dispatch : CommandDispatch} {row : SagaCommandRow} {status : SagaCommandStatus}
    {update : SagaCommandRow → SagaCommandRow}
    (stored : system.db.sagaCommands order kind = some row)
    (found : system.dispatches[index]? = some dispatch)
    (reported : system.reportedStatus order kind action =
      if system.Reports order kind index report then some status else none)
    (setsStatus : (update row).status = status)
    (keepsPayload : (update row).payload = row.payload)
    (keepsDeadLetter : (update row).deadLettered = row.deadLettered) :
    ∃ row', (system.db.afterUpdate
        (system.db.updateUnlessSent dispatch.order dispatch.kind update)
        report).sagaCommands order kind = some row' ∧
      RowStep system action order kind row row' := by
  rw [OrdersDb.afterUpdate_sagaCommands, stored]
  by_cases its : report.applied = true ∧ dispatch.order = order ∧ dispatch.kind = kind
  · rw [if_pos its]
    rw [if_pos ((reports_iff found).mpr its)] at reported
    apply Exists.intro (unlessSent update row)
    apply And.intro rfl
    unfold unlessSent
    by_cases sent : row.status = .sent
    · rw [if_pos sent]
      exact ⟨rfl, by rw [if_pos sent]; exact sent, id⟩
    · rw [if_neg sent]
      constructor
      · exact keepsPayload
      · rw [if_neg sent, reported]
        exact setsStatus
      · rw [keepsDeadLetter]
        exact id
  · rw [if_neg its]
    rw [if_neg fun reports => its ((reports_iff found).mp reports)] at reported
    exact ⟨row, rfl, RowStep.refl reported⟩

theorem reportedStatus_of_quiet (quiet : Quiet action) :
    system.reportedStatus order kind action = none := by
  cases action with
  | claimDue => rfl
  | reply => rfl
  | retry => rfl
  | crash => rfl
  | enqueue => cases quiet
  | start => cases quiet
  | markSent => cases quiet
  | markRejected => cases quiet
  | park => cases quiet
  | claimDeadLetter => cases quiet
  | onFirstPark => cases quiet

/-- A claim of the dead letter, whether or not it is told of. -/
theorem rowStep_of_claim {row : SagaCommandRow} {db : OrdersDb}
    {claimedOrder : OrderNumber} {claimedKind : SagaCommandKind}
    (stored : system.db.sagaCommands order kind = some row)
    (silent : system.reportedStatus order kind action = none)
    (updated : system.db.claimDeadLetter claimedOrder claimedKind = some db) :
    ∃ row', db.sagaCommands order kind = some row' ∧
      RowStep system action order kind row row' := by
  rcases OrdersDb.claimDeadLetter_sagaCommands updated with
    ⟨before, storedBefore, _, rfl⟩
  rw [OrdersDb.setSagaCommand_sagaCommands]
  split
  · rename_i same
    rw [same.1, same.2, stored, Option.some.injEq] at storedBefore
    subst storedBefore
    have kept : RowStep system action order kind row row := RowStep.refl silent
    exact ⟨_, rfl, ⟨rfl, kept.status, fun _ => rfl⟩⟩
  · exact ⟨row, stored, RowStep.refl silent⟩

/-- A row that is stored stays, and changes as the action reports. -/
theorem row_step {row : SagaCommandRow}
    (change : Change config system action system')
    (stored : system.db.sagaCommands order kind = some row) :
    ∃ row', system'.db.sagaCommands order kind = some row' ∧
      RowStep system action order kind row row' := by
  cases change with
  | enqueued =>
      exact ⟨row, OrdersDb.enqueue_sagaCommands stored, RowStep.refl rfl⟩
  | swept => exact ⟨row, stored, RowStep.refl rfl⟩
  | ignored => exact ⟨row, stored, RowStep.refl rfl⟩
  | started => exact ⟨row, stored, RowStep.refl rfl⟩
  | moved _ quiet =>
      exact ⟨row, stored, RowStep.refl (reportedStatus_of_quiet quiet)⟩
  | succeeded => exact ⟨row, stored, RowStep.refl rfl⟩
  | markedSent index report dispatch next found =>
      exact rowStep_of_update stored found rfl rfl rfl rfl
  | markedRejected index report dispatch next message found =>
      exact rowStep_of_update stored found rfl rfl rfl rfl
  | parked index report dispatch next found =>
      exact rowStep_of_update stored found rfl rfl rfl rfl
  | claimed index dispatch db found parked updated =>
      exact rowStep_of_claim stored rfl updated
  | claimMissed index report dispatch next found =>
      unfold OrdersDb.afterUpdate
      split
      · cases updated : system.db.claimDeadLetter dispatch.order dispatch.kind with
        | none => exact ⟨row, stored, RowStep.refl rfl⟩
        | some db => exact rowStep_of_claim stored rfl updated
      · exact ⟨row, stored, RowStep.refl rfl⟩
  | firstParked => exact ⟨row, stored, RowStep.refl rfl⟩

/-- A row that was not stored appears as it is enqueued. -/
theorem row_new {row : SagaCommandRow}
    (change : Change config system action system')
    (absent : system.db.sagaCommands order kind = none)
    (stored : system'.db.sagaCommands order kind = some row) :
    row.status = .pending ∧ row.deadLettered = false := by
  have unseen : ∀ {updated : SagaCommandRow}, system.db.sagaCommands order kind =
      some updated → False := by
    intro updated isStored
    rw [absent] at isStored
    cases isStored
  have updates : ∀ (dispatch : CommandDispatch) (report : UpdateReport)
      (update : SagaCommandRow → SagaCommandRow),
      (system.db.afterUpdate
        (system.db.updateUnlessSent dispatch.order dispatch.kind update)
        report).sagaCommands order kind = some row → False := by
    intro dispatch report update isStored
    rw [OrdersDb.afterUpdate_sagaCommands, absent] at isStored
    split at isStored
    · cases isStored
    · cases isStored
  have claims : ∀ (dispatch : CommandDispatch) (db : OrdersDb),
      system.db.claimDeadLetter dispatch.order dispatch.kind = some db →
      db.sagaCommands order kind = some row → False := by
    intro dispatch db updated isStored
    rcases OrdersDb.claimDeadLetter_sagaCommands updated with
      ⟨before, storedBefore, _, rfl⟩
    rw [OrdersDb.setSagaCommand_sagaCommands] at isStored
    split at isStored
    · rename_i same
      rw [same.1, same.2] at storedBefore
      exact unseen storedBefore
    · exact unseen isStored
  cases change with
  | enqueued newOrder newKind payload triggeringEnvelope triggeringTopic =>
      rw [OrdersDb.enqueue_of_absent absent stored]
      exact ⟨rfl, rfl⟩
  | swept => exact (unseen stored).elim
  | ignored => exact (unseen stored).elim
  | started => exact (unseen stored).elim
  | moved => exact (unseen stored).elim
  | succeeded => exact (unseen stored).elim
  | markedSent index report dispatch => exact (updates dispatch report _ stored).elim
  | markedRejected index report dispatch =>
      exact (updates dispatch report _ stored).elim
  | parked index report dispatch => exact (updates dispatch report _ stored).elim
  | claimed index dispatch db found parked updated =>
      exact (claims dispatch db updated stored).elim
  | claimMissed index report dispatch next found =>
      unfold OrdersDb.afterUpdate at stored
      split at stored
      · cases updated : system.db.claimDeadLetter dispatch.order dispatch.kind with
        | none =>
            rw [updated] at stored
            exact (unseen stored).elim
        | some db =>
            rw [updated] at stored
            exact (claims dispatch db updated stored).elim
      · exact (unseen stored).elim
  | firstParked => exact (unseen stored).elim

/-! ## Dispatches and what they are told -/

/-- The call a dispatch makes, each time it makes one. -/
def requestOf (dispatch : CommandDispatch) : RpcRequest :=
  ⟨dispatch.order, dispatch.kind, dispatch.row.payload, dispatch.row.status⟩

/-- The success a dispatch is told of, if it is. -/
def successOf (dispatch : CommandDispatch) : RpcSuccess :=
  ⟨dispatch.order, dispatch.kind, dispatch.row.payload⟩

theorem requestOf_continues {dispatch next : CommandDispatch}
    (continues : dispatch.Continues next) : requestOf next = requestOf dispatch := by
  unfold requestOf
  rw [continues.order, continues.kind, continues.row]

theorem start_fields (config : SagaCommandDispatcherConfig) (order : OrderNumber)
    (kind : SagaCommandKind) (row : SagaCommandRow) :
    (CommandDispatch.start config order kind row).order = order ∧
      (CommandDispatch.start config order kind row).kind = kind ∧
      (CommandDispatch.start config order kind row).row = row := by
  have continues := CommandDispatch.attempting_continues
    { order := order
      kind := kind
      row := row
      attempt := 0
      lastError := ""
      phase := .exhausted } config 1
  exact ⟨continues.order, continues.kind, continues.row⟩

theorem start_requests (config : SagaCommandDispatcherConfig) (order : OrderNumber)
    (kind : SagaCommandKind) (row : SagaCommandRow) :
    (CommandDispatch.start config order kind row).requests =
      if 1 ≤ config.maxAttempts then
        [⟨order, kind, row.payload, row.status⟩]
      else
        [] :=
  CommandDispatch.attempting_requests _ config 1

/-- A dispatch goes on with what an earlier one was called for, or is new, for a
row that is not `sent`. -/
theorem dispatch_step {dispatch : CommandDispatch}
    (change : Change config system action system')
    (dispatchMem : dispatch ∈ system'.dispatches) :
    (∃ before ∈ system.dispatches, before.Continues dispatch) ∨
      (system.db.sagaCommands dispatch.order dispatch.kind = some dispatch.row ∧
        (1 ≤ config.maxAttempts → requestOf dispatch ∈ system'.requests)) := by
  have kept : dispatch ∈ system.dispatches →
      ∃ before ∈ system.dispatches, before.Continues dispatch :=
    fun member => ⟨dispatch, member, rfl, rfl, rfl⟩
  have moved : ∀ (index : Nat) (before next : CommandDispatch),
      system.dispatches[index]? = some before → before.Continues next →
      dispatch ∈ system.dispatches.set index next →
      ∃ before ∈ system.dispatches, before.Continues dispatch := by
    intro index before next found continues member
    rcases List.mem_or_eq_of_mem_set member with old | isNext
    · exact kept old
    · exact ⟨before, List.mem_of_getElem? found, isNext ▸ continues⟩
  cases change with
  | enqueued => exact Or.inl (kept dispatchMem)
  | swept => exact Or.inl (kept dispatchMem)
  | ignored => exact Or.inl (kept dispatchMem)
  | started origin order kind due row stored unsent =>
      rcases List.mem_append.mp dispatchMem with old | isNew
      · exact Or.inl (kept old)
      · apply Or.inr
        rw [List.mem_singleton.mp isNew]
        rcases start_fields config order kind row with ⟨sameOrder, sameKind, sameRow⟩
        rw [requestOf, sameOrder, sameKind, sameRow]
        apply And.intro stored
        intro allowed
        apply List.mem_append_right
        rw [start_requests, if_pos allowed]
        exact List.mem_singleton.mpr rfl
  | moved _ _ index before next found continues =>
      exact Or.inl (moved index before next found continues dispatchMem)
  | succeeded index before found =>
      exact Or.inl (moved index before _ found (before.enter_continues _) dispatchMem)
  | markedSent index report before next found succeeded continues =>
      exact Or.inl (moved index before next found continues dispatchMem)
  | markedRejected index report before next message found continues =>
      exact Or.inl (moved index before next found continues dispatchMem)
  | parked index report before next found continues =>
      exact Or.inl (moved index before next found continues dispatchMem)
  | claimed index before db found =>
      exact Or.inl (moved index before _ found (before.enter_continues _) dispatchMem)
  | claimMissed index report before next found continues =>
      exact Or.inl (moved index before next found continues dispatchMem)
  | firstParked index before status found =>
      exact Or.inl (moved index before _ found (before.enter_continues _) dispatchMem)

/-- The requests of a step: old ones, a retry of a call made before, or the first
call of a dispatch, with the committed status it starts at. -/
theorem request_step {request : RpcRequest}
    (change : Change config system action system')
    (requestMem : request ∈ system'.requests) :
    request ∈ system.requests ∨
      (1 ≤ config.maxAttempts ∧
        ((∃ dispatch ∈ system.dispatches, request = requestOf dispatch) ∨
          ((∃ origin, action = .start origin request.order request.kind) ∧
            request.statusRead ≠ .sent ∧
            system.db.commandStatus request.order request.kind =
              some request.statusRead))) := by
  have silent : ∀ next : CommandDispatch, next.requests = [] →
      request ∈ system.requests ++ next.requests → request ∈ system.requests := by
    intro next none member
    rw [none, List.append_nil] at member
    exact member
  cases change with
  | enqueued => exact Or.inl requestMem
  | swept => exact Or.inl requestMem
  | ignored => exact Or.inl requestMem
  | started origin order kind due row stored unsent =>
      rcases List.mem_append.mp requestMem with old | isNew
      · exact Or.inl old
      · apply Or.inr
        rw [start_requests] at isNew
        split at isNew
        · rename_i allowed
          rw [List.mem_singleton.mp isNew]
          apply And.intro allowed
          apply Or.inr
          exact ⟨⟨origin, rfl⟩, unsent, by rw [OrdersDb.commandStatus, stored]; rfl⟩
        · cases isNew
  | moved _ _ index before next found continues _ allowed =>
      rcases List.mem_append.mp requestMem with old | isNew
      · exact Or.inl old
      · apply Or.inr
        apply And.intro (allowed request isNew)
        apply Or.inl
        apply Exists.intro before
        apply And.intro (List.mem_of_getElem? found)
        exact (CommandDispatch.mem_requests isNew).trans (requestOf_continues continues)
  | succeeded => exact Or.inl (silent _ rfl requestMem)
  | markedSent index report before next found succeeded continues aside none =>
      exact Or.inl (silent next none requestMem)
  | markedRejected index report before next message found continues aside none =>
      exact Or.inl (silent next none requestMem)
  | parked index report before next found continues outcome none =>
      exact Or.inl (silent next none requestMem)
  | claimed => exact Or.inl (silent _ rfl requestMem)
  | claimMissed index report before next found continues aside none =>
      exact Or.inl (silent next none requestMem)
  | firstParked => exact Or.inl (silent _ rfl requestMem)

/-- A dispatch that has succeeded did before, or is told so now. -/
theorem succeeded_step {dispatch : CommandDispatch}
    (change : Change config system action system')
    (dispatchMem : dispatch ∈ system'.dispatches)
    (succeeded : dispatch.phase = .succeeded) :
    dispatch ∈ system.dispatches ∨ successOf dispatch ∈ system'.successes := by
  have moved : ∀ (index : Nat) (next : CommandDispatch),
      next.phase ≠ .succeeded → dispatch ∈ system.dispatches.set index next →
      dispatch ∈ system.dispatches := by
    intro index next otherwise member
    rcases List.mem_or_eq_of_mem_set member with old | isNext
    · exact old
    · exact absurd (isNext ▸ succeeded) otherwise
  have aside : ∀ next : CommandDispatch, next.Aside → next.phase ≠ .succeeded := by
    intro next isAside phase
    unfold CommandDispatch.Aside at isAside
    rw [phase] at isAside
    exact isAside
  cases change with
  | enqueued => exact Or.inl dispatchMem
  | swept => exact Or.inl dispatchMem
  | ignored => exact Or.inl dispatchMem
  | started origin order kind due row =>
      rcases List.mem_append.mp dispatchMem with old | isNew
      · exact Or.inl old
      · rw [List.mem_singleton.mp isNew] at succeeded
        exact absurd succeeded
          (aside _ (CommandDispatch.attempting_aside _ config 1))
  | moved _ _ index before next found continues isAside =>
      exact Or.inl (moved index next (aside next isAside) dispatchMem)
  | succeeded index before found =>
      rcases List.mem_or_eq_of_mem_set dispatchMem with old | isNext
      · exact Or.inl old
      · apply Or.inr
        rw [isNext]
        exact List.mem_append_right _ (List.mem_singleton.mpr rfl)
  | markedSent index report before next found _ continues isAside =>
      exact Or.inl (moved index next (aside next isAside) dispatchMem)
  | markedRejected index report before next message found continues isAside =>
      exact Or.inl (moved index next (aside next isAside) dispatchMem)
  | parked index report before next found continues outcome =>
      apply Or.inl
      apply moved index next _ dispatchMem
      rcases outcome with isAside | ⟨parked, _⟩
      · exact aside next isAside
      · rw [parked]
        intro same
        cases same
  | claimed index before => exact Or.inl (moved index _ (by intro same; cases same) dispatchMem)
  | claimMissed index report before next found continues isAside =>
      exact Or.inl (moved index next (aside next isAside) dispatchMem)
  | firstParked index before => exact Or.inl (moved index _ (by intro same; cases same) dispatchMem)

theorem successes_mono (change : Change config system action system') :
    system.successes ⊆ system'.successes := by
  intro success successMem
  cases change with
  | succeeded => exact List.mem_append_left _ successMem
  | _ => exact successMem

theorem requests_mono (change : Change config system action system') :
    system.requests ⊆ system'.requests := by
  intro request requestMem
  cases change with
  | enqueued => exact requestMem
  | swept => exact requestMem
  | ignored => exact requestMem
  | _ => exact List.mem_append_left _ requestMem

/-- Only a dispatch that has succeeded reports `sent`. -/
theorem reported_sent (change : Change config system action system')
    (reported : system.reportedStatus order kind action = some .sent) :
    ∃ dispatch ∈ system.dispatches, dispatch.order = order ∧
      dispatch.kind = kind ∧ dispatch.phase = .succeeded := by
  cases change with
  | markedSent index report dispatch next found succeeded =>
      simp only [reportedStatus] at reported
      split at reported
      · rename_i reports
        rcases (reports_iff found).mp reports with ⟨_, sameOrder, sameKind⟩
        exact ⟨dispatch, List.mem_of_getElem? found, sameOrder, sameKind, succeeded⟩
      · cases reported
  | markedRejected =>
      simp only [reportedStatus] at reported
      split at reported
      · cases reported
      · cases reported
  | parked =>
      simp only [reportedStatus] at reported
      split at reported
      · cases reported
      · cases reported
  | moved _ quiet =>
      rw [reportedStatus_of_quiet quiet] at reported
      cases reported
  | _ => cases reported

/-! ## The invariant -/

structure Sound (config : SagaCommandDispatcherConfig) (system : CommandSystem) :
    Prop where
  read : ∀ dispatch ∈ system.dispatches, ∃ row,
    system.db.sagaCommands dispatch.order dispatch.kind = some row ∧
      row.payload = dispatch.row.payload
  called : 1 ≤ config.maxAttempts →
    ∀ dispatch ∈ system.dispatches, requestOf dispatch ∈ system.requests
  told : ∀ dispatch ∈ system.dispatches, dispatch.phase = .succeeded →
    successOf dispatch ∈ system.successes
  sent : ∀ order kind row, system.db.sagaCommands order kind = some row →
    row.status = .sent → ⟨order, kind, row.payload⟩ ∈ system.successes

theorem sound_initial : Sound config initial := by
  constructor
  · intro dispatch dispatchMem
    cases dispatchMem
  · intro _ dispatch dispatchMem
    cases dispatchMem
  · intro dispatch dispatchMem
    cases dispatchMem
  · intro order kind row stored
    cases stored

theorem sound_step (sound : Sound config system)
    (change : Change config system action system') : Sound config system' := by
  constructor
  · intro dispatch dispatchMem
    rcases dispatch_step change dispatchMem with
      ⟨before, beforeMem, continues⟩ | ⟨stored, _⟩
    · rcases sound.read before beforeMem with ⟨row, stored, samePayload⟩
      rcases row_step change stored with ⟨row', stored', rowStep⟩
      apply Exists.intro row'
      rw [continues.order, continues.kind, continues.row]
      exact ⟨stored', rowStep.payload.trans samePayload⟩
    · rcases row_step change stored with ⟨row', stored', rowStep⟩
      exact ⟨row', stored', rowStep.payload⟩
  · intro allowed dispatch dispatchMem
    rcases dispatch_step change dispatchMem with
      ⟨before, beforeMem, continues⟩ | ⟨_, called⟩
    · rw [requestOf_continues continues]
      exact requests_mono change (sound.called allowed before beforeMem)
    · exact called allowed
  · intro dispatch dispatchMem succeeded
    rcases succeeded_step change dispatchMem succeeded with before | told
    · exact successes_mono change (sound.told dispatch before succeeded)
    · exact told
  · intro order kind row' stored' sent
    cases stored : system.db.sagaCommands order kind with
    | none =>
        rw [(row_new change stored stored').1] at sent
        cases sent
    | some row =>
        rcases row_step change stored with ⟨after, storedAfter, rowStep⟩
        rw [stored', Option.some.injEq] at storedAfter
        subst storedAfter
        rw [rowStep.payload]
        apply successes_mono change
        by_cases wasSent : row.status = .sent
        · exact sound.sent order kind row stored wasSent
        · have status := rowStep.status
          rw [if_neg wasSent, sent] at status
          cases reported : system.reportedStatus order kind action with
          | none =>
              rw [reported] at status
              exact absurd status.symm wasSent
          | some report =>
              rw [reported] at status
              have isSent : report = .sent := status.symm
              rw [isSent] at reported
              rcases reported_sent change reported with
                ⟨dispatch, dispatchMem, rfl, rfl, succeeded⟩
              rcases sound.read dispatch dispatchMem with ⟨read, storedRead, same⟩
              rw [stored, Option.some.injEq] at storedRead
              subst storedRead
              rw [same]
              exact sound.told dispatch dispatchMem succeeded

/-! ## The lifecycle -/

/-- No request for the row came of a dispatch that started once the row was
`sent` or `rejected`. -/
def CallsWhileOwed (order : OrderNumber) (kind : SagaCommandKind)
    (system : CommandSystem) : Prop :=
  ∀ request ∈ system.requests, request.order = order → request.kind = kind →
    request.statusRead ≠ .sent ∧ request.statusRead ≠ .rejected

instance (order : OrderNumber) (kind : SagaCommandKind) (system : CommandSystem) :
    Decidable (CallsWhileOwed order kind system) :=
  inferInstanceAs (Decidable (∀ request ∈ system.requests, _))

/-- `sent` and `rejected` are kept, `sent` has been answered with a success to
the row's own payload, and no later dispatch calls the responder. -/
def LifecycleKept (order : OrderNumber) (kind : SagaCommandKind)
    (before : CommandSystem) (_ : CommandAction) (after : CommandSystem) : Prop :=
  (before.db.commandStatus order kind = some .sent →
      after.db.commandStatus order kind = some .sent) ∧
    (before.db.commandStatus order kind = some .rejected →
      after.db.commandStatus order kind = some .rejected) ∧
    (∀ row ∈ after.db.sagaCommands order kind, row.status = .sent →
      ⟨order, kind, row.payload⟩ ∈ after.successes) ∧
    CallsWhileOwed order kind after

instance (order : OrderNumber) (kind : SagaCommandKind) (before : CommandSystem)
    (action : CommandAction) (after : CommandSystem) :
    Decidable (LifecycleKept order kind before action after) :=
  inferInstanceAs (Decidable (_ ∧ _ ∧ _ ∧ _))

/-- The action starts a dispatch of the row. -/
def StartsDispatch (order : OrderNumber) (kind : SagaCommandKind) :
    CommandAction → Prop
  | .start _ startOrder startKind => startOrder = order ∧ startKind = kind
  | _ => False

instance (order : OrderNumber) (kind : SagaCommandKind) :
    (action : CommandAction) → Decidable (StartsDispatch order kind action)
  | .start _ startOrder startKind =>
      inferInstanceAs (Decidable (startOrder = order ∧ startKind = kind))
  | .enqueue .. | .claimDue .. | .reply .. | .retry .. | .markSent ..
  | .markRejected .. | .park .. | .claimDeadLetter .. | .onFirstPark ..
  | .crash .. => isFalse id

/-- Of a rejected row, no success and no park is reported any more, and no
dispatch is started. -/
def LeavesRejected (config : SagaCommandDispatcherConfig) (order : OrderNumber)
    (kind : SagaCommandKind) (system : CommandSystem) (action : CommandAction) :
    Prop :=
  system.db.commandStatus order kind = some .rejected →
    system.reportedStatus order kind action ≠ some .sent ∧
      system.reportedStatus order kind action ≠ some .parked ∧
      (1 ≤ config.maxAttempts → ¬ StartsDispatch order kind action)

instance (config : SagaCommandDispatcherConfig) (order : OrderNumber)
    (kind : SagaCommandKind) (system : CommandSystem) (action : CommandAction) :
    Decidable (LeavesRejected config order kind system action) :=
  inferInstanceAs (Decidable (_ → _ ∧ _ ∧ _))

theorem reportedStatus_ne_pending :
    system.reportedStatus order kind action ≠ some .pending := by
  cases action <;> simp only [reportedStatus, ne_eq, reduceCtorEq, not_false_iff]
  all_goals
    split
    · nofun
    · nofun

/-- The committed status of a stored row after an action. -/
theorem commandStatus_step {status : SagaCommandStatus}
    (change : Change config system action system')
    (committed : system.db.commandStatus order kind = some status) :
    system'.db.commandStatus order kind =
      some (if status = .sent then .sent
        else (system.reportedStatus order kind action).getD status) := by
  rcases Option.map_eq_some_iff.mp committed with ⟨row, stored, rfl⟩
  rcases row_step change stored with ⟨row', stored', rowStep⟩
  rw [OrdersDb.commandStatus, stored', ← rowStep.status]
  rfl

/-- A dispatch started at `rejected` calls the responder. -/
theorem start_calls (change : Change config system action system')
    (rejected : system.db.commandStatus order kind = some .rejected)
    (allowed : 1 ≤ config.maxAttempts) (starts : StartsDispatch order kind action) :
    ∃ request ∈ system'.requests, request.order = order ∧ request.kind = kind ∧
      request.statusRead = .rejected := by
  rcases Option.map_eq_some_iff.mp rejected with ⟨row, stored, status⟩
  cases change with
  | ignored origin startOrder startKind due settled =>
      rcases starts with ⟨rfl, rfl⟩
      rw [settled row stored] at status
      cases status
  | started origin startOrder startKind due found storedFound =>
      rcases starts with ⟨rfl, rfl⟩
      rw [stored, Option.some.injEq] at storedFound
      subst storedFound
      apply Exists.intro ⟨startOrder, startKind, row.payload, row.status⟩
      constructor
      · apply List.mem_append_right
        rw [start_requests, if_pos allowed]
        exact List.mem_singleton.mpr rfl
      · exact ⟨rfl, rfl, status⟩
  | moved startAction quiet =>
      cases action with
      | start => cases quiet
      | _ => cases starts
  | _ => cases starts

theorem lifecycleKept_iff (sound : Sound config system)
    (calls : CallsWhileOwed order kind system)
    (change : Change config system action system') :
    LifecycleKept order kind system action system' ↔
      LeavesRejected config order kind system action := by
  constructor
  · rintro ⟨_, keepsRejected, _, callsAfter⟩ rejected
    have after := commandStatus_step change rejected
    rw [keepsRejected rejected, if_neg (by decide), Option.some.injEq] at after
    constructor
    · intro reported
      rw [reported] at after
      cases after
    constructor
    · intro reported
      rw [reported] at after
      cases after
    · intro allowed starts
      rcases start_calls change rejected allowed starts with
        ⟨request, requestMem, sameOrder, sameKind, statusRead⟩
      exact (callsAfter request requestMem sameOrder sameKind).2 statusRead
  · intro leaves
    constructor
    · intro sent
      rw [commandStatus_step change sent, if_pos rfl]
    constructor
    · intro rejected
      rcases leaves rejected with ⟨notSent, notParked, _⟩
      rw [commandStatus_step change rejected, if_neg (by decide)]
      cases reported : system.reportedStatus order kind action with
      | none => rfl
      | some status =>
          cases status with
          | pending => exact absurd reported reportedStatus_ne_pending
          | sent => exact absurd reported notSent
          | parked => exact absurd reported notParked
          | rejected => rfl
    constructor
    · intro row stored
      exact (sound_step sound change).sent order kind row stored
    · rintro request requestMem rfl rfl
      rcases request_step change requestMem with old | ⟨allowed, retried | started⟩
      · exact calls request old rfl rfl
      · rcases retried with ⟨dispatch, dispatchMem, isIts⟩
        apply calls request _ rfl rfl
        rw [isIts]
        exact sound.called allowed dispatch dispatchMem
      · rcases started with ⟨⟨origin, isStart⟩, notSent, statusRead⟩
        apply And.intro notSent
        intro rejected
        rw [rejected] at statusRead
        apply (leaves statusRead).2.2 allowed
        rw [isStart]
        exact ⟨rfl, rfl⟩

/-- A run keeps the lifecycle of a row if and only if each of its actions leaves
the row alone once it is rejected. -/
theorem commandLifecycle_iff (config : SagaCommandDispatcherConfig)
    (order : OrderNumber) (kind : SagaCommandKind) (schedule : List CommandAction) :
    EveryStep (step config) (LifecycleKept order kind) initial schedule ↔
      EveryStep (step config)
        (fun system action _ => LeavesRejected config order kind system action)
        initial schedule := by
  apply everyStep_congr
    (fun system => Sound config system ∧ CallsWhileOwed order kind system)
  · rintro system action system' ⟨sound, calls⟩ stepped
    exact lifecycleKept_iff sound calls (step_change stepped)
  · rintro system action system' ⟨sound, _⟩ stepped kept
    exact ⟨sound_step sound (step_change stepped), kept.2.2.2⟩
  · apply And.intro sound_initial
    intro request requestMem
    cases requestMem

/-- The fast path and a sweeper dispatch the same row; one is told that the
despatch is refused, the other times out and parks the row. -/
def parkedAfterRejection : List CommandAction :=
  [ oweDespatch, .start .fastPath ⟨1⟩ .despatchCreate, .claimDue ⟨1⟩ .despatchCreate,
    .start .sweeper ⟨1⟩ .despatchCreate,
    .reply 0 (.businessRejection "no reserved stock"), .markRejected 0 .answered,
    .reply 1 (.timeout "timed out"), .park 1 .answered ]

/-- A rejected row is parked, and comes due again. -/
theorem rejected_row_parked :
    ¬ (∀ (config : SagaCommandDispatcherConfig) (order : OrderNumber)
        (kind : SagaCommandKind) (schedule : List CommandAction),
      EveryStep (step config) (fun _ _ _ => True) initial schedule →
        EveryStep (step config) (LifecycleKept order kind) initial schedule) := by
  intro claimed
  have runs : EveryStep (step ⟨1⟩) (fun _ _ _ => True) initial
      parkedAfterRejection := by
    decide
  exact absurd (claimed ⟨1⟩ ⟨1⟩ .despatchCreate parkedAfterRejection runs) (by decide)

end CommandSystem

end OrderToCash.Orders
