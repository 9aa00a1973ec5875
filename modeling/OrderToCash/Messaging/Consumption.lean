import OrderToCash.Contracts.Facts
import OrderToCash.Transition.Run
import Mathlib.Logic.Function.Basic

/-!
# Consumption of facts

A delivery of a fact is one call of `FactRetryDispatcher.dispatch`.  It runs
`IdempotentConsumer.runOnce` until an attempt succeeds or the attempts of its
policy are used up; `runOnce` runs one transaction through the unit of work,
which itself issues it anew after a transient lock error.  The transaction
inserts the row of its event and its consumer into `processed_events` before
anything else, and the unique index lets at most one open transaction hold the
row of a key.

Any number of deliveries, of any facts to any consumers, run side by side, and
each of their steps may fail.
-/

namespace OrderToCash.Messaging

open OrderToCash.Contracts
open OrderToCash.Transition

inductive ConsumerName
  | ordersSaga
  | projector
  | notifications
deriving DecidableEq, Repr

/-- A row of `processed_events`, by its unique key. -/
structure ProcessedEvent where
  eventId : EventId
  consumer : ConsumerName
deriving DecidableEq, Repr

structure FactRetryPolicy where
  maxAttempts : Nat
deriving DecidableEq, Repr

/-- The transactions one unit of work issues at most. -/
def maxTransactionAttempts : Nat := 3

/-- What a failing step throws; the unit of work retries transient lock errors
only. -/
inductive StepError
  | lock
  | other
deriving DecidableEq, Repr

/-- How a dispatch that returned came to. -/
inductive DispatchOutcome
  | processed
  | duplicate
  | deadLettered
deriving DecidableEq, Repr

inductive DispatchPhase
  /-- About to begin a transaction. -/
  | ready
  /-- The transaction has begun and holds nothing yet. -/
  | begun
  /-- The transaction holds the row of the event. -/
  | recorded
  /-- Every attempt failed. -/
  | exhausted
  | returned (outcome : DispatchOutcome)
  | thrown
  | crashed
deriving DecidableEq, Repr

/-- One call of `dispatch`. -/
structure Dispatch where
  sourceTopic : Topic
  envelope : Envelope
  consumer : ConsumerName
  attempt : Nat
  transactionAttempt : Nat
  phase : DispatchPhase
deriving DecidableEq, Repr

namespace Dispatch

/-- The row the dispatch's transactions insert. -/
def processedEvent (dispatch : Dispatch) : ProcessedEvent :=
  ⟨dispatch.envelope.eventId, dispatch.consumer⟩

def enter (dispatch : Dispatch) (phase : DispatchPhase) : Dispatch :=
  { dispatch with phase := phase }

/-- The head of the loop over the attempts of the policy. -/
def attempting (dispatch : Dispatch) (policy : FactRetryPolicy) (attempt : Nat) :
    Dispatch :=
  { dispatch with
    attempt := attempt
    transactionAttempt := 1
    phase := if attempt ≤ policy.maxAttempts then .ready else .exhausted }

/-- The transaction threw: the unit of work begins another one, or the attempt
has failed. -/
def failed (dispatch : Dispatch) (policy : FactRetryPolicy) (error : StepError) :
    Dispatch :=
  if error = .lock ∧ dispatch.transactionAttempt < maxTransactionAttempts then
    { dispatch with
      transactionAttempt := dispatch.transactionAttempt + 1
      phase := .ready }
  else
    dispatch.attempting policy (dispatch.attempt + 1)

/-- A new call, at the head of its loop. -/
def start (policy : FactRetryPolicy) (sourceTopic : Topic) (envelope : Envelope)
    (consumer : ConsumerName) : Dispatch :=
  attempting
    { sourceTopic := sourceTopic
      envelope := envelope
      consumer := consumer
      attempt := 1
      transactionAttempt := 1
      phase := .ready }
    policy 1

end Dispatch

/-- How an open transaction stands to the dispatch that began it. -/
inductive Standing
  | attached
  /-- Given up; the server rolls it back. -/
  | doomed
  /-- Its commit was sent and reported as an error. -/
  | inDoubt
deriving DecidableEq, Repr

/-- The open transaction that holds the row of a key, with what its work has
written once the work has run. -/
structure OpenTransaction (Write : Type) where
  dispatch : Nat
  writes : Option (List Write)
  standing : Standing
deriving DecidableEq, Repr

/-- The effects of a work that was committed. -/
structure CommittedWork (Write : Type) where
  dispatch : Nat
  processedEvent : ProcessedEvent
  writes : List Write
deriving DecidableEq, Repr

/-- A message on the dead-letter topic of `originalTopic`. -/
structure DeadLetter where
  dispatch : Nat
  originalTopic : Topic
  envelope : Envelope
  failedConsumer : ConsumerName
  attempts : Nat
deriving DecidableEq, Repr

/-- What the DLQ publisher sends for a dispatch. -/
def Dispatch.deadLetter (dispatch : Dispatch) (policy : FactRetryPolicy)
    (index : Nat) : DeadLetter :=
  { dispatch := index
    originalTopic := dispatch.sourceTopic
    envelope := dispatch.envelope
    failedConsumer := dispatch.consumer
    attempts := policy.maxAttempts }

structure ConsumptionSystem (Write : Type) where
  dispatches : List Dispatch
  holder : ProcessedEvent → Option (OpenTransaction Write)
  processedEvents : List ProcessedEvent
  works : List (CommittedWork Write)
  deadLetters : List DeadLetter

inductive ConsumptionAction (Write : Type)
  /-- A fact is delivered, for the first time or again. -/
  | deliver (sourceTopic : Topic) (envelope : Envelope) (consumer : ConsumerName)
  | begin (index : Nat)
  /-- The insert into `processed_events` answers. -/
  | record (index : Nat)
  | work (index : Nat) (writes : List Write)
  | commit (index : Nat)
  /-- A statement, the work or the rollback throws. -/
  | fail (index : Nat) (error : StepError)
  /-- The commit is reported as an error and may have happened or may happen
  yet. -/
  | loseCommit (index : Nat) (error : StepError)
  /-- The server ends a transaction nobody waits for. -/
  | settle (processedEvent : ProcessedEvent) (committed : Bool)
  | publishDlq (index : Nat)
  /-- Publishing throws, whether or not the broker has the message. -/
  | failDlq (index : Nat) (reached : Bool)
  | crash (index : Nat)
deriving DecidableEq, Repr

namespace ConsumptionSystem

variable {Write : Type}

/-- Nothing was delivered yet. -/
def initial : ConsumptionSystem Write :=
  { dispatches := []
    holder := fun _ => none
    processedEvents := []
    works := []
    deadLetters := [] }

def setDispatch (system : ConsumptionSystem Write) (index : Nat)
    (dispatch : Dispatch) : ConsumptionSystem Write :=
  { system with dispatches := system.dispatches.set index dispatch }

def setHolder (system : ConsumptionSystem Write) (processedEvent : ProcessedEvent)
    (transaction : Option (OpenTransaction Write)) : ConsumptionSystem Write :=
  { system with
    holder := Function.update system.holder processedEvent transaction }

/-- The transaction that holds the row of a key commits what it wrote. -/
def apply (system : ConsumptionSystem Write) (processedEvent : ProcessedEvent)
    (dispatch : Nat) (writes : List Write) : ConsumptionSystem Write :=
  { system.setHolder processedEvent none with
    processedEvents := system.processedEvents ++ [processedEvent]
    works := system.works ++ [⟨dispatch, processedEvent, writes⟩] }

/-- A transaction that its dispatch has let go of. -/
def detach (system : ConsumptionSystem Write) (index : Nat)
    (processedEvent : ProcessedEvent) (standing : Standing) :
    ConsumptionSystem Write :=
  match system.holder processedEvent with
  | some ⟨dispatch, writes, .attached⟩ =>
      if dispatch = index then
        system.setHolder processedEvent (some ⟨dispatch, writes, standing⟩)
      else
        system
  | _ => system

def deliver (policy : FactRetryPolicy) (system : ConsumptionSystem Write)
    (sourceTopic : Topic) (envelope : Envelope) (consumer : ConsumerName) :
    ConsumptionSystem Write :=
  { system with
    dispatches := system.dispatches ++
      [Dispatch.start policy sourceTopic envelope consumer] }

def begin (system : ConsumptionSystem Write) (index : Nat) :
    Option (ConsumptionSystem Write) :=
  match system.dispatches[index]? with
  | none => none
  | some dispatch =>
      match dispatch.phase with
      | .ready => some (system.setDispatch index (dispatch.enter .begun))
      | _ => none

/-- A row that is committed is a duplicate; one that another transaction holds
makes the insert wait. -/
def record (system : ConsumptionSystem Write) (index : Nat) :
    Option (ConsumptionSystem Write) :=
  match system.dispatches[index]? with
  | none => none
  | some dispatch =>
      match dispatch.phase, system.holder dispatch.processedEvent with
      | .begun, none =>
          if dispatch.processedEvent ∈ system.processedEvents then
            some (system.setDispatch index
              (dispatch.enter (.returned .duplicate)))
          else
            some
              ((system.setDispatch index (dispatch.enter .recorded)).setHolder
                dispatch.processedEvent (some ⟨index, none, .attached⟩))
      | _, _ => none

def work (system : ConsumptionSystem Write) (index : Nat) (writes : List Write) :
    Option (ConsumptionSystem Write) :=
  match system.dispatches[index]? with
  | none => none
  | some dispatch =>
      match dispatch.phase, system.holder dispatch.processedEvent with
      | .recorded, some ⟨holder, none, .attached⟩ =>
          if holder = index then
            some (system.setHolder dispatch.processedEvent
              (some ⟨index, some writes, .attached⟩))
          else
            none
      | _, _ => none

def commit (system : ConsumptionSystem Write) (index : Nat) :
    Option (ConsumptionSystem Write) :=
  match system.dispatches[index]? with
  | none => none
  | some dispatch =>
      match dispatch.phase, system.holder dispatch.processedEvent with
      | .recorded, some ⟨holder, some writes, .attached⟩ =>
          if holder = index then
            some
              ((system.setDispatch index
                (dispatch.enter (.returned .processed))).apply
                  dispatch.processedEvent index writes)
          else
            none
      | _, _ => none

def fail (policy : FactRetryPolicy) (system : ConsumptionSystem Write)
    (index : Nat) (error : StepError) : Option (ConsumptionSystem Write) :=
  match system.dispatches[index]? with
  | none => none
  | some dispatch =>
      match dispatch.phase with
      | .begun | .recorded =>
          some
            ((system.setDispatch index (dispatch.failed policy error)).detach index
              dispatch.processedEvent .doomed)
      | _ => none

def loseCommit (policy : FactRetryPolicy) (system : ConsumptionSystem Write)
    (index : Nat) (error : StepError) : Option (ConsumptionSystem Write) :=
  match system.dispatches[index]? with
  | none => none
  | some dispatch =>
      match dispatch.phase, system.holder dispatch.processedEvent with
      | .recorded, some ⟨holder, some writes, .attached⟩ =>
          if holder = index then
            some
              ((system.setDispatch index (dispatch.failed policy error)).setHolder
                dispatch.processedEvent (some ⟨index, some writes, .inDoubt⟩))
          else
            none
      | _, _ => none

def settle (system : ConsumptionSystem Write) (processedEvent : ProcessedEvent)
    (committed : Bool) : Option (ConsumptionSystem Write) :=
  match system.holder processedEvent, committed with
  | some ⟨dispatch, some writes, .inDoubt⟩, true =>
      some (system.apply processedEvent dispatch writes)
  | some ⟨_, _, .inDoubt⟩, false | some ⟨_, _, .doomed⟩, false =>
      some (system.setHolder processedEvent none)
  | _, _ => none

def publishDlq (policy : FactRetryPolicy) (system : ConsumptionSystem Write)
    (index : Nat) : Option (ConsumptionSystem Write) :=
  match system.dispatches[index]? with
  | none => none
  | some dispatch =>
      match dispatch.phase with
      | .exhausted =>
          some
            { system.setDispatch index
                (dispatch.enter (.returned .deadLettered)) with
              deadLetters := system.deadLetters ++
                [dispatch.deadLetter policy index] }
      | _ => none

def failDlq (policy : FactRetryPolicy) (system : ConsumptionSystem Write)
    (index : Nat) (reached : Bool) : Option (ConsumptionSystem Write) :=
  match system.dispatches[index]? with
  | none => none
  | some dispatch =>
      match dispatch.phase with
      | .exhausted =>
          some
            { system.setDispatch index (dispatch.enter .thrown) with
              deadLetters := system.deadLetters ++
                if reached then [dispatch.deadLetter policy index] else [] }
      | _ => none

def crash (system : ConsumptionSystem Write) (index : Nat) :
    Option (ConsumptionSystem Write) :=
  match system.dispatches[index]? with
  | none => none
  | some dispatch =>
      match dispatch.phase with
      | .ready | .begun | .recorded | .exhausted =>
          some
            ((system.setDispatch index (dispatch.enter .crashed)).detach
              index dispatch.processedEvent .doomed)
      | _ => none

def step (policy : FactRetryPolicy) :
    Step (ConsumptionSystem Write) (ConsumptionAction Write)
  | system, .deliver sourceTopic envelope consumer =>
      some (system.deliver policy sourceTopic envelope consumer)
  | system, .begin index => system.begin index
  | system, .record index => system.record index
  | system, .work index writes => system.work index writes
  | system, .commit index => system.commit index
  | system, .fail index error => system.fail policy index error
  | system, .loseCommit index error => system.loseCommit policy index error
  | system, .settle processedEvent committed => system.settle processedEvent committed
  | system, .publishDlq index => system.publishDlq policy index
  | system, .failDlq index reached => system.failDlq policy index reached
  | system, .crash index => system.crash index

end ConsumptionSystem

end OrderToCash.Messaging
