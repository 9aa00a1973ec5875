import OrderToCash.Orders.Store
import OrderToCash.Transition.Run

/-!
# Dispatch of saga commands

`SagaCommandDispatcher.dispatch` reads a command row once, calls the responder
until it answers or the attempts are used up, and reports what came of it in
conditional updates of the row, each a statement of its own.  Dispatches are
started by the fast path, after a fact enqueued its command or found it owed
already, and by sweepers, after a claim of the rows that are due.  Any number of
dispatches of one row run side by side.
-/

namespace OrderToCash.Orders

open OrderToCash.Contracts
open OrderToCash.Kernel
open OrderToCash.Transition

structure SagaCommandDispatcherConfig where
  maxAttempts : Nat
deriving DecidableEq, Repr

/-- What a call of the responder comes to. -/
inductive RpcOutcome
  | success
  | businessRejection (message : String)
  | timeout (message : String)
  | transportError (message : String)
deriving DecidableEq, Repr

inductive SagaCommandDispatchOutcome
  | sent
  | rejected
  | parked
deriving DecidableEq, Repr

inductive SagaCommandDispatchPhase
  /-- The responder is being called. -/
  | calling
  | succeeded
  | refused (message : String)
  /-- Between two attempts. -/
  | backingOff
  /-- Every attempt failed. -/
  | exhausted
  /-- The row was parked; the dead letter is not claimed yet. -/
  | parked
  | deadLettering (claimedAt : Option SagaCommandStatus)
  | returned (outcome : SagaCommandDispatchOutcome)
  | thrown
  | crashed
deriving DecidableEq, Repr

/-- One call of `dispatch` that found a row to send, with the row it read. -/
structure CommandDispatch where
  order : OrderNumber
  kind : SagaCommandKind
  row : SagaCommandRow
  attempt : Nat
  lastError : String
  phase : SagaCommandDispatchPhase
deriving DecidableEq, Repr

/-- A call of a responder, by a dispatch that read the row in that status. -/
structure RpcRequest where
  order : OrderNumber
  kind : SagaCommandKind
  payload : SagaCommandPayload
  statusRead : SagaCommandStatus
deriving DecidableEq, Repr

/-- A success reply to a command of an order. -/
structure RpcSuccess where
  order : OrderNumber
  kind : SagaCommandKind
  payload : SagaCommandPayload
deriving DecidableEq, Repr

namespace CommandDispatch

/-- The call of `dispatch` is for that row. -/
def IsFor (dispatch : CommandDispatch) (order : OrderNumber)
    (kind : SagaCommandKind) : Prop :=
  dispatch.order = order ∧ dispatch.kind = kind

instance (dispatch : CommandDispatch) (order : OrderNumber) (kind : SagaCommandKind) :
    Decidable (dispatch.IsFor order kind) :=
  inferInstanceAs (Decidable (_ ∧ _))

def enter (dispatch : CommandDispatch) (phase : SagaCommandDispatchPhase) :
    CommandDispatch :=
  { dispatch with phase := phase }

/-- The head of the loop over the attempts of one cycle. -/
def attempting (dispatch : CommandDispatch) (config : SagaCommandDispatcherConfig)
    (attempt : Nat) : CommandDispatch :=
  if attempt ≤ config.maxAttempts then
    { dispatch with attempt := attempt, phase := .calling }
  else
    dispatch.enter .exhausted

/-- What is caught of a failed attempt; the last one is not backed off from. -/
def failed (dispatch : CommandDispatch) (config : SagaCommandDispatcherConfig)
    (message : String) : CommandDispatch :=
  { dispatch with
    lastError := message
    phase :=
      if dispatch.attempt < config.maxAttempts then .backingOff else .exhausted }

def totalAttempts (dispatch : CommandDispatch) : Nat :=
  dispatch.row.attempts + dispatch.attempt

/-- The call a dispatch makes at the head of its loop. -/
def requests (dispatch : CommandDispatch) : List RpcRequest :=
  match dispatch.phase with
  | .calling =>
      [⟨dispatch.order, dispatch.kind, dispatch.row.payload, dispatch.row.status⟩]
  | _ => []

/-- A dispatch of a row that is not `sent`, at the head of its loop. -/
def start (config : SagaCommandDispatcherConfig) (order : OrderNumber)
    (kind : SagaCommandKind) (row : SagaCommandRow) : CommandDispatch :=
  attempting
    { order := order
      kind := kind
      row := row
      attempt := 0
      lastError := ""
      phase := .exhausted }
    config 1

end CommandDispatch

/-- How a statement ends for the dispatch that issued it. -/
inductive UpdateReport
  | answered
  /-- It threw, whether or not it was applied. -/
  | threw (applied : Bool) (message : String)
deriving DecidableEq, Repr

def UpdateReport.applied : UpdateReport → Bool
  | .answered => true
  | .threw applied _ => applied

/-- Only a park that changed the row goes on to claim the dead letter. -/
def CommandDispatch.afterPark (dispatch : CommandDispatch) (changed : Bool) :
    UpdateReport → CommandDispatch
  | .answered => dispatch.enter (if changed then .parked else .returned .parked)
  | .threw _ _ => dispatch.enter .thrown

/-- Who starts a dispatch. -/
inductive DispatchOrigin
  | fastPath
  | sweeper
deriving DecidableEq, Repr

/-- A claimed dead letter, with the committed status of the row at the claim. -/
structure DeadLetterClaim where
  dispatch : Nat
  order : OrderNumber
  kind : SagaCommandKind
  status : Option SagaCommandStatus
deriving DecidableEq, Repr

structure CommandSystem where
  db : OrdersDb
  /-- The rows sweepers have claimed and not dispatched yet. -/
  due : List (OrderNumber × SagaCommandKind)
  dispatches : List CommandDispatch
  requests : List RpcRequest
  successes : List RpcSuccess
  claims : List DeadLetterClaim
  /-- The runs of `onFirstPark`. -/
  firstParks : List DeadLetterClaim

inductive CommandAction
  /-- A fact or an operator's cancel owes a command. -/
  | enqueue (order : OrderNumber) (kind : SagaCommandKind)
      (payload : SagaCommandPayload) (triggeringEnvelope : TriggeringEnvelope)
      (triggeringTopic : Topic)
  /-- A sweeper claims a row that is due. -/
  | claimDue (order : OrderNumber) (kind : SagaCommandKind)
  | start (origin : DispatchOrigin) (order : OrderNumber) (kind : SagaCommandKind)
  | reply (index : Nat) (outcome : RpcOutcome)
  /-- The backoff is over. -/
  | retry (index : Nat)
  | markSent (index : Nat) (report : UpdateReport)
  | markRejected (index : Nat) (report : UpdateReport)
  | park (index : Nat) (report : UpdateReport)
  | claimDeadLetter (index : Nat) (report : UpdateReport)
  | onFirstPark (index : Nat)
  | crash (index : Nat)
deriving DecidableEq, Repr

/-- The committed status of a command row. -/
def OrdersDb.commandStatus (db : OrdersDb) (order : OrderNumber)
    (kind : SagaCommandKind) : Option SagaCommandStatus :=
  (db.sagaCommands order kind).map SagaCommandRow.status

/-- The database after a conditional update, which may have matched no row. -/
def OrdersDb.afterUpdate (db : OrdersDb) (updated : Option OrdersDb)
    (report : UpdateReport) : OrdersDb :=
  if report.applied then updated.getD db else db

namespace CommandSystem

def initial : CommandSystem :=
  { db := OrdersDb.empty
    due := []
    dispatches := []
    requests := []
    successes := []
    claims := []
    firstParks := [] }

/-- A dispatch moves on; at the head of its loop it calls the responder. -/
def setDispatch (system : CommandSystem) (index : Nat) (dispatch : CommandDispatch) :
    CommandSystem :=
  { system with
    dispatches := system.dispatches.set index dispatch
    requests := system.requests ++ dispatch.requests }

def enqueue (system : CommandSystem) (order : OrderNumber) (kind : SagaCommandKind)
    (payload : SagaCommandPayload) (triggeringEnvelope : TriggeringEnvelope)
    (triggeringTopic : Topic) : CommandSystem :=
  { system with
    db := system.db.enqueue order kind
      (SagaCommandRow.enqueued payload triggeringEnvelope triggeringTopic) }

/-- Only `pending` and `parked` rows come due. -/
def claimDue (system : CommandSystem) (order : OrderNumber) (kind : SagaCommandKind) :
    Option CommandSystem :=
  match system.db.sagaCommands order kind with
  | none => none
  | some row =>
      if row.IsOutstanding then
        some { system with due := system.due ++ [(order, kind)] }
      else
        none

/-- An absent row, or one that is `sent`, makes the dispatch a silent no-op. -/
def startFound (config : SagaCommandDispatcherConfig) (system : CommandSystem)
    (order : OrderNumber) (kind : SagaCommandKind) : CommandSystem :=
  match system.db.sagaCommands order kind with
  | none => system
  | some row =>
      if row.status = .sent then
        system
      else
        { system with
          dispatches := system.dispatches ++
            [CommandDispatch.start config order kind row]
          requests := system.requests ++
            (CommandDispatch.start config order kind row).requests }

def start (config : SagaCommandDispatcherConfig) (system : CommandSystem)
    (origin : DispatchOrigin) (order : OrderNumber) (kind : SagaCommandKind) :
    Option CommandSystem :=
  match origin with
  | .fastPath => some (system.startFound config order kind)
  | .sweeper =>
      if (order, kind) ∈ system.due then
        some
          (startFound config { system with due := system.due.erase (order, kind) }
            order kind)
      else
        none

def reply (config : SagaCommandDispatcherConfig) (system : CommandSystem)
    (index : Nat) (outcome : RpcOutcome) : Option CommandSystem :=
  match system.dispatches[index]? with
  | none => none
  | some dispatch =>
      match dispatch.phase, outcome with
      | .calling, .success =>
          some
            { system.setDispatch index (dispatch.enter .succeeded) with
              successes := system.successes ++
                [⟨dispatch.order, dispatch.kind, dispatch.row.payload⟩] }
      | .calling, .businessRejection message =>
          some (system.setDispatch index (dispatch.enter (.refused message)))
      | .calling, .timeout message | .calling, .transportError message =>
          some (system.setDispatch index (dispatch.failed config message))
      | _, _ => none

def retry (config : SagaCommandDispatcherConfig) (system : CommandSystem)
    (index : Nat) : Option CommandSystem :=
  match system.dispatches[index]? with
  | none => none
  | some dispatch =>
      match dispatch.phase with
      | .backingOff =>
          some (system.setDispatch index
            (dispatch.attempting config (dispatch.attempt + 1)))
      | _ => none

/-- The update runs inside the attempt: what it throws is caught like a failed
call. -/
def markSent (config : SagaCommandDispatcherConfig) (system : CommandSystem)
    (index : Nat) (report : UpdateReport) : Option CommandSystem :=
  match system.dispatches[index]? with
  | none => none
  | some dispatch =>
      match dispatch.phase with
      | .succeeded =>
          some
            { system.setDispatch index
                (match report with
                | .answered => dispatch.enter (.returned .sent)
                | .threw _ message => dispatch.failed config message) with
              db := system.db.afterUpdate
                (system.db.markSent dispatch.order dispatch.kind) report }
      | _ => none

def markRejected (system : CommandSystem) (index : Nat) (report : UpdateReport) :
    Option CommandSystem :=
  match system.dispatches[index]? with
  | none => none
  | some dispatch =>
      match dispatch.phase with
      | .refused message =>
          some
            { system.setDispatch index
                (match report with
                | .answered => dispatch.enter (.returned .rejected)
                | .threw _ _ => dispatch.enter .thrown) with
              db := system.db.afterUpdate
                (system.db.markRejected dispatch.order dispatch.kind
                  dispatch.totalAttempts message) report }
      | _ => none

def park (system : CommandSystem) (index : Nat) (report : UpdateReport) :
    Option CommandSystem :=
  match system.dispatches[index]? with
  | none => none
  | some dispatch =>
      match dispatch.phase with
      | .exhausted =>
          let updated := system.db.park dispatch.order dispatch.kind
            dispatch.totalAttempts dispatch.lastError
          some
            { system.setDispatch index
                (dispatch.afterPark updated.isSome report) with
              db := system.db.afterUpdate updated report }
      | _ => none

def claimDeadLetter (system : CommandSystem) (index : Nat) (report : UpdateReport) :
    Option CommandSystem :=
  match system.dispatches[index]? with
  | none => none
  | some dispatch =>
      match dispatch.phase with
      | .parked =>
          match report, system.db.claimDeadLetter dispatch.order dispatch.kind with
          | .answered, some db =>
              let status := system.db.commandStatus dispatch.order dispatch.kind
              some
                { system.setDispatch index (dispatch.enter (.deadLettering status)) with
                  db := db
                  claims := system.claims ++
                    [⟨index, dispatch.order, dispatch.kind, status⟩] }
          | .answered, none =>
              some (system.setDispatch index (dispatch.enter (.returned .parked)))
          | .threw _ _, updated =>
              some
                { system.setDispatch index (dispatch.enter .thrown) with
                  db := system.db.afterUpdate updated report }
      | _ => none

def onFirstPark (system : CommandSystem) (index : Nat) : Option CommandSystem :=
  match system.dispatches[index]? with
  | none => none
  | some dispatch =>
      match dispatch.phase with
      | .deadLettering status =>
          some
            { system.setDispatch index (dispatch.enter (.returned .parked)) with
              firstParks := system.firstParks ++
                [⟨index, dispatch.order, dispatch.kind, status⟩] }
      | _ => none

def crash (system : CommandSystem) (index : Nat) : Option CommandSystem :=
  match system.dispatches[index]? with
  | none => none
  | some dispatch =>
      match dispatch.phase with
      | .returned _ | .thrown | .crashed => none
      | _ => some (system.setDispatch index (dispatch.enter .crashed))

def step (config : SagaCommandDispatcherConfig) : Step CommandSystem CommandAction
  | system, .enqueue order kind payload triggeringEnvelope triggeringTopic =>
      some (system.enqueue order kind payload triggeringEnvelope triggeringTopic)
  | system, .claimDue order kind => system.claimDue order kind
  | system, .start origin order kind => system.start config origin order kind
  | system, .reply index outcome => system.reply config index outcome
  | system, .retry index => system.retry config index
  | system, .markSent index report => system.markSent config index report
  | system, .markRejected index report => system.markRejected index report
  | system, .park index report => system.park index report
  | system, .claimDeadLetter index report => system.claimDeadLetter index report
  | system, .onFirstPark index => system.onFirstPark index
  | system, .crash index => system.crash index

end CommandSystem

/-! ## What an action does -/

namespace CommandDispatch

/-- The dispatch goes on with the command it was called for and the row it has
read. -/
structure Continues (dispatch next : CommandDispatch) : Prop where
  order : next.order = dispatch.order
  kind : next.kind = dispatch.kind
  row : next.row = dispatch.row

/-- The dispatch holds no answer it has yet to report, and no dead letter. -/
def Aside (dispatch : CommandDispatch) : Prop :=
  match dispatch.phase with
  | .succeeded | .parked | .deadLettering _ => False
  | _ => True

theorem enter_continues (dispatch : CommandDispatch)
    (phase : SagaCommandDispatchPhase) : dispatch.Continues (dispatch.enter phase) :=
  ⟨rfl, rfl, rfl⟩

theorem attempting_continues (dispatch : CommandDispatch)
    (config : SagaCommandDispatcherConfig) (attempt : Nat) :
    dispatch.Continues (dispatch.attempting config attempt) := by
  unfold attempting
  split
  · exact ⟨rfl, rfl, rfl⟩
  · exact ⟨rfl, rfl, rfl⟩

theorem attempting_aside (dispatch : CommandDispatch)
    (config : SagaCommandDispatcherConfig) (attempt : Nat) :
    (dispatch.attempting config attempt).Aside := by
  unfold attempting
  split
  · trivial
  · trivial

theorem failed_continues (dispatch : CommandDispatch)
    (config : SagaCommandDispatcherConfig) (message : String) :
    dispatch.Continues (dispatch.failed config message) :=
  ⟨rfl, rfl, rfl⟩

theorem failed_phase (dispatch : CommandDispatch)
    (config : SagaCommandDispatcherConfig) (message : String) :
    (dispatch.failed config message).phase = .backingOff ∨
      (dispatch.failed config message).phase = .exhausted := by
  by_cases more : dispatch.attempt < config.maxAttempts
  · exact Or.inl (if_pos more)
  · exact Or.inr (if_neg more)

theorem failed_aside (dispatch : CommandDispatch)
    (config : SagaCommandDispatcherConfig) (message : String) :
    (dispatch.failed config message).Aside := by
  unfold Aside
  rcases dispatch.failed_phase config message with phase | phase
  · rw [phase]; trivial
  · rw [phase]; trivial

theorem failed_requests (dispatch : CommandDispatch)
    (config : SagaCommandDispatcherConfig) (message : String) :
    (dispatch.failed config message).requests = [] := by
  unfold requests
  rcases dispatch.failed_phase config message with phase | phase
  · rw [phase]
  · rw [phase]

/-- A dispatch calls the responder with what it has read. -/
theorem mem_requests {dispatch : CommandDispatch} {request : RpcRequest}
    (requestMem : request ∈ dispatch.requests) :
    request = ⟨dispatch.order, dispatch.kind, dispatch.row.payload,
      dispatch.row.status⟩ := by
  unfold requests at requestMem
  split at requestMem
  · exact List.mem_singleton.mp requestMem
  · cases requestMem

/-- The loop is entered only if the policy allows an attempt. -/
theorem attempting_requests (dispatch : CommandDispatch)
    (config : SagaCommandDispatcherConfig) (attempt : Nat) :
    (dispatch.attempting config attempt).requests =
      if attempt ≤ config.maxAttempts then
        [⟨dispatch.order, dispatch.kind, dispatch.row.payload, dispatch.row.status⟩]
      else
        [] := by
  unfold attempting
  split
  · rfl
  · rfl

end CommandDispatch

namespace CommandSystem

/-- An action that neither starts a dispatch nor touches a row. -/
def Quiet : CommandAction → Prop
  | .claimDue _ _ | .reply _ _ | .retry _ | .crash _ => True
  | _ => False

inductive Change (config : SagaCommandDispatcherConfig) (system : CommandSystem) :
    CommandAction → CommandSystem → Prop
  | enqueued (order : OrderNumber) (kind : SagaCommandKind)
      (payload : SagaCommandPayload) (triggeringEnvelope : TriggeringEnvelope)
      (triggeringTopic : Topic) :
      Change config system
        (.enqueue order kind payload triggeringEnvelope triggeringTopic)
        { system with
          db := system.db.enqueue order kind
            (SagaCommandRow.enqueued payload triggeringEnvelope triggeringTopic) }
  | swept (order : OrderNumber) (kind : SagaCommandKind)
      (due : List (OrderNumber × SagaCommandKind)) :
      Change config system (.claimDue order kind) { system with due := due }
  | ignored (origin : DispatchOrigin) (order : OrderNumber) (kind : SagaCommandKind)
      (due : List (OrderNumber × SagaCommandKind))
      (settled : ∀ row, system.db.sagaCommands order kind = some row →
        row.status = .sent) :
      Change config system (.start origin order kind) { system with due := due }
  | started (origin : DispatchOrigin) (order : OrderNumber) (kind : SagaCommandKind)
      (due : List (OrderNumber × SagaCommandKind)) (row : SagaCommandRow)
      (stored : system.db.sagaCommands order kind = some row)
      (unsent : row.status ≠ .sent) :
      Change config system (.start origin order kind)
        { system with
          due := due
          dispatches := system.dispatches ++
            [CommandDispatch.start config order kind row]
          requests := system.requests ++
            (CommandDispatch.start config order kind row).requests }
  | moved (action : CommandAction) (quiet : Quiet action) (index : Nat)
      (dispatch next : CommandDispatch)
      (found : system.dispatches[index]? = some dispatch)
      (continues : dispatch.Continues next) (aside : next.Aside)
      (allowed : ∀ request ∈ next.requests, 1 ≤ config.maxAttempts) :
      Change config system action (system.setDispatch index next)
  | succeeded (index : Nat) (dispatch : CommandDispatch)
      (found : system.dispatches[index]? = some dispatch)
      (calling : dispatch.phase = .calling) :
      Change config system (.reply index .success)
        { system.setDispatch index (dispatch.enter .succeeded) with
          successes := system.successes ++
            [⟨dispatch.order, dispatch.kind, dispatch.row.payload⟩] }
  | markedSent (index : Nat) (report : UpdateReport)
      (dispatch next : CommandDispatch)
      (found : system.dispatches[index]? = some dispatch)
      (succeeded : dispatch.phase = .succeeded)
      (continues : dispatch.Continues next) (aside : next.Aside)
      (silent : next.requests = []) :
      Change config system (.markSent index report)
        { system.setDispatch index next with
          db := system.db.afterUpdate
            (system.db.markSent dispatch.order dispatch.kind) report }
  | markedRejected (index : Nat) (report : UpdateReport)
      (dispatch next : CommandDispatch) (message : String)
      (found : system.dispatches[index]? = some dispatch)
      (continues : dispatch.Continues next) (aside : next.Aside)
      (silent : next.requests = []) :
      Change config system (.markRejected index report)
        { system.setDispatch index next with
          db := system.db.afterUpdate
            (system.db.markRejected dispatch.order dispatch.kind
              dispatch.totalAttempts message) report }
  | parked (index : Nat) (report : UpdateReport) (dispatch next : CommandDispatch)
      (found : system.dispatches[index]? = some dispatch)
      (continues : dispatch.Continues next)
      (outcome : next.Aside ∨
        (next.phase = .parked ∧ report.applied = true ∧
          system.db.commandStatus dispatch.order dispatch.kind ≠ some .sent))
      (silent : next.requests = []) :
      Change config system (.park index report)
        { system.setDispatch index next with
          db := system.db.afterUpdate
            (system.db.park dispatch.order dispatch.kind dispatch.totalAttempts
              dispatch.lastError) report }
  | claimed (index : Nat) (dispatch : CommandDispatch) (db : OrdersDb)
      (found : system.dispatches[index]? = some dispatch)
      (parked : dispatch.phase = .parked)
      (updated : system.db.claimDeadLetter dispatch.order dispatch.kind = some db) :
      Change config system (.claimDeadLetter index .answered)
        { system.setDispatch index
            (dispatch.enter
              (.deadLettering (system.db.commandStatus dispatch.order dispatch.kind)))
          with
          db := db
          claims := system.claims ++
            [⟨index, dispatch.order, dispatch.kind,
              system.db.commandStatus dispatch.order dispatch.kind⟩] }
  | claimMissed (index : Nat) (report : UpdateReport)
      (dispatch next : CommandDispatch)
      (found : system.dispatches[index]? = some dispatch)
      (continues : dispatch.Continues next) (aside : next.Aside)
      (silent : next.requests = []) :
      Change config system (.claimDeadLetter index report)
        { system.setDispatch index next with
          db := system.db.afterUpdate
            (system.db.claimDeadLetter dispatch.order dispatch.kind) report }
  | firstParked (index : Nat) (dispatch : CommandDispatch)
      (status : Option SagaCommandStatus)
      (found : system.dispatches[index]? = some dispatch)
      (claimed : dispatch.phase = .deadLettering status) :
      Change config system (.onFirstPark index)
        { system.setDispatch index (dispatch.enter (.returned .parked)) with
          firstParks := system.firstParks ++
            [⟨index, dispatch.order, dispatch.kind, status⟩] }

theorem park_isSome {db : OrdersDb} {order : OrderNumber} {kind : SagaCommandKind}
    {attempts : Nat} {lastError : String}
    (updated : (db.park order kind attempts lastError).isSome = true) :
    db.commandStatus order kind ≠ some .sent := by
  unfold OrdersDb.commandStatus
  simp only [OrdersDb.park, OrdersDb.updateUnlessSent] at updated
  split at updated
  · cases updated
  · rename_i row stored
    rw [stored]
    split at updated
    · cases updated
    · rename_i unsent
      intro sent
      exact unsent (Option.some.inj sent)

theorem startFound_change {config : SagaCommandDispatcherConfig}
    {system : CommandSystem} (origin : DispatchOrigin) (order : OrderNumber)
    (kind : SagaCommandKind) (due : List (OrderNumber × SagaCommandKind)) :
    Change config system (.start origin order kind)
      (startFound config { system with due := due } order kind) := by
  simp only [startFound]
  split
  · rename_i absent
    apply Change.ignored
    intro row stored
    rw [absent] at stored
    cases stored
  · rename_i row stored
    split
    · rename_i sent
      apply Change.ignored
      intro other storedOther
      rw [stored, Option.some.injEq] at storedOther
      exact storedOther ▸ sent
    · rename_i unsent
      exact .started origin order kind due row stored unsent

theorem claimDue_change {config : SagaCommandDispatcherConfig}
    {system system' : CommandSystem} {order : OrderNumber}
    {kind : SagaCommandKind} (claimed : system.claimDue order kind = some system') :
    Change config system (.claimDue order kind) system' := by
  simp only [claimDue] at claimed
  split at claimed
  · cases claimed
  · split at claimed
    · cases claimed
      exact .swept order kind _
    · cases claimed

theorem start_change {config : SagaCommandDispatcherConfig}
    {system system' : CommandSystem} {origin : DispatchOrigin}
    {order : OrderNumber} {kind : SagaCommandKind}
    (started : system.start config origin order kind = some system') :
    Change config system (.start origin order kind) system' := by
  cases origin with
  | fastPath =>
      cases started
      exact startFound_change .fastPath order kind system.due
  | sweeper =>
      simp only [start] at started
      split at started
      · cases started
        exact startFound_change .sweeper order kind _
      · cases started

theorem reply_change {config : SagaCommandDispatcherConfig}
    {system system' : CommandSystem} {index : Nat} {outcome : RpcOutcome}
    (replied : system.reply config index outcome = some system') :
    Change config system (.reply index outcome) system' := by
  simp only [reply] at replied
  split at replied
  · cases replied
  · rename_i dispatch found
    have failing : ∀ message, Change config system (.reply index outcome)
        (system.setDispatch index (dispatch.failed config message)) := by
      intro message
      apply Change.moved (.reply index outcome) trivial index dispatch _ found
        (dispatch.failed_continues config message)
        (dispatch.failed_aside config message)
      rw [dispatch.failed_requests config message]
      intro request requestMem
      cases requestMem
    split at replied
    · rename_i calling
      cases replied
      exact .succeeded index dispatch found calling
    · cases replied
      apply Change.moved (.reply index _) trivial index dispatch _ found
        (dispatch.enter_continues (.refused _)) trivial
      intro request requestMem
      cases requestMem
    · cases replied
      exact failing _
    · cases replied
      exact failing _
    · cases replied

theorem retry_change {config : SagaCommandDispatcherConfig}
    {system system' : CommandSystem} {index : Nat}
    (retried : system.retry config index = some system') :
    Change config system (.retry index) system' := by
  simp only [retry] at retried
  split at retried
  · cases retried
  · rename_i dispatch found
    split at retried
    · cases retried
      apply Change.moved (.retry index) trivial index dispatch _ found
        (dispatch.attempting_continues config _)
        (dispatch.attempting_aside config _)
      intro request requestMem
      rw [dispatch.attempting_requests config] at requestMem
      split at requestMem
      · omega
      · cases requestMem
    · cases retried

theorem markSent_change {config : SagaCommandDispatcherConfig}
    {system system' : CommandSystem} {index : Nat} {report : UpdateReport}
    (marked : system.markSent config index report = some system') :
    Change config system (.markSent index report) system' := by
  simp only [markSent] at marked
  split at marked
  · cases marked
  · rename_i dispatch found
    split at marked
    · rename_i succeeded
      cases marked
      cases report with
      | answered =>
          exact .markedSent index _ dispatch _ found succeeded
            (dispatch.enter_continues _) trivial rfl
      | threw applied message =>
          exact .markedSent index _ dispatch _ found succeeded
            (dispatch.failed_continues config message)
            (dispatch.failed_aside config message)
            (dispatch.failed_requests config message)
    · cases marked

theorem markRejected_change {config : SagaCommandDispatcherConfig}
    {system system' : CommandSystem} {index : Nat} {report : UpdateReport}
    (marked : system.markRejected index report = some system') :
    Change config system (.markRejected index report) system' := by
  simp only [markRejected] at marked
  split at marked
  · cases marked
  · rename_i dispatch found
    split at marked
    · rename_i message refused
      cases marked
      cases report with
      | answered =>
          exact .markedRejected index _ dispatch _ message found
            (dispatch.enter_continues _) trivial rfl
      | threw applied text =>
          exact .markedRejected index _ dispatch _ message found
            (dispatch.enter_continues _) trivial rfl
    · cases marked

theorem park_change {config : SagaCommandDispatcherConfig}
    {system system' : CommandSystem} {index : Nat} {report : UpdateReport}
    (parked : system.park index report = some system') :
    Change config system (.park index report) system' := by
  simp only [park] at parked
  split at parked
  · cases parked
  · rename_i dispatch found
    split at parked
    · cases parked
      cases report with
      | answered =>
          cases updated :
              (system.db.park dispatch.order dispatch.kind
                dispatch.totalAttempts dispatch.lastError).isSome with
          | true =>
              exact .parked index _ dispatch _ found (dispatch.enter_continues _)
                (Or.inr ⟨rfl, rfl, park_isSome updated⟩) rfl
          | false =>
              exact .parked index _ dispatch _ found (dispatch.enter_continues _)
                (Or.inl trivial) rfl
      | threw applied message =>
          exact .parked index _ dispatch _ found (dispatch.enter_continues _)
            (Or.inl trivial) rfl
    · cases parked

theorem claimDeadLetter_change {config : SagaCommandDispatcherConfig}
    {system system' : CommandSystem} {index : Nat} {report : UpdateReport}
    (claimed : system.claimDeadLetter index report = some system') :
    Change config system (.claimDeadLetter index report) system' := by
  simp only [claimDeadLetter] at claimed
  split at claimed
  · cases claimed
  · rename_i dispatch found
    split at claimed
    · rename_i parked
      split at claimed
      · rename_i db updated
        cases claimed
        exact .claimed index dispatch db found parked updated
      · rename_i updated
        cases claimed
        have missed := @Change.claimMissed config system index .answered dispatch _
          found (dispatch.enter_continues (.returned .parked)) trivial rfl
        rw [updated] at missed
        exact missed
      · cases claimed
        exact .claimMissed index _ dispatch _ found
          (dispatch.enter_continues .thrown) trivial rfl
    · cases claimed

theorem onFirstPark_change {config : SagaCommandDispatcherConfig}
    {system system' : CommandSystem} {index : Nat}
    (ran : system.onFirstPark index = some system') :
    Change config system (.onFirstPark index) system' := by
  simp only [onFirstPark] at ran
  split at ran
  · cases ran
  · rename_i dispatch found
    split at ran
    · rename_i status claimed
      cases ran
      exact .firstParked index dispatch status found claimed
    · cases ran

theorem crash_change {config : SagaCommandDispatcherConfig}
    {system system' : CommandSystem} {index : Nat}
    (crashed : system.crash index = some system') :
    Change config system (.crash index) system' := by
  simp only [crash] at crashed
  split at crashed
  · cases crashed
  · rename_i dispatch found
    split at crashed
    · cases crashed
    · cases crashed
    · cases crashed
    · cases crashed
      apply Change.moved (.crash index) trivial index dispatch _ found
        (dispatch.enter_continues .crashed) trivial
      intro request requestMem
      cases requestMem

theorem step_change {config : SagaCommandDispatcherConfig}
    {system system' : CommandSystem} {action : CommandAction}
    (stepped : step config system action = some system') :
    Change config system action system' := by
  cases action with
  | enqueue order kind payload triggeringEnvelope triggeringTopic =>
      cases stepped
      exact .enqueued order kind payload triggeringEnvelope triggeringTopic
  | claimDue order kind => exact claimDue_change stepped
  | start origin order kind => exact start_change stepped
  | reply index outcome => exact reply_change stepped
  | retry index => exact retry_change stepped
  | markSent index report => exact markSent_change stepped
  | markRejected index report => exact markRejected_change stepped
  | park index report => exact park_change stepped
  | claimDeadLetter index report => exact claimDeadLetter_change stepped
  | onFirstPark index => exact onFirstPark_change stepped
  | crash index => exact crash_change stepped

/-! ## A command to dispatch -/

/-- The credit of an order is approved, and its despatch is owed. -/
def oweDespatch : CommandAction :=
  .enqueue ⟨1⟩ .despatchCreate (.despatchCreate ⟨⟨1⟩⟩)
    (.fact
      { eventId := ⟨.billing, 0⟩
        fact := .creditApproved
          { orderReference := ⟨1⟩
            retailerCode := "RET-0001"
            companyCode := "COM-0001"
            creditCode := "CRD-0001"
            currency := .eur
            heldAmount := 3000
            availableCreditAfter := 7000 } })
    .billing

end CommandSystem

end OrderToCash.Orders
