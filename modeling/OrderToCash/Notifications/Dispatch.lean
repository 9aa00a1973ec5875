import OrderToCash.Messaging.Consumption
import Mathlib.Data.Rat.Defs

/-!
# Dispatch of notifications

A notified fact is dispatched in three layers.  `FactRetryDispatcher` runs the
attempts of its policy in line and dead-letters what they do not get done; an
attempt claims the row of the fact in the ledger, in a transaction of its own,
and sends afterwards; `DegradingNotificationSender` renders to the console what
the mail server refuses for good.  A failed send is answered by deleting the row
again.

Whatever the database, the mail server, the console and the broker answer is an
outcome that a delivery brings along.
-/

namespace OrderToCash.Notifications

open OrderToCash.Contracts
open OrderToCash.Kernel
open OrderToCash.Messaging

inductive NotifyCommand
  | orderPlaced
  | orderConfirmed
  | orderDespatched
  | invoiceIssued
  | paymentReceived
  | orderCompleted
  | orderCancelled
deriving DecidableEq, Repr

/-- The seven notified facts; no other fact is dispatched. -/
def notifyCommandFor : EventType → Option NotifyCommand
  | .orderPlaced => some .orderPlaced
  | .orderConfirmed => some .orderConfirmed
  | .orderDespatched => some .orderDespatched
  | .invoiceIssued => some .invoiceIssued
  | .paymentReceived => some .paymentReceived
  | .orderCompleted => some .orderCompleted
  | .orderCancelled => some .orderCancelled
  | _ => none

structure NotificationMessage where
  recipient : String
  subject : String
  text : String
  html : String
  /-- Rendered as `<eventId>@order-to-cash`. -/
  messageId : Option EventId
  correlationId : Option OrderNumber
deriving DecidableEq, Repr

/-! ## Sending -/

/-- The two fields of a sender's error that decide its class: its response code,
where that is a finite number, and its name. -/
structure SendFailure where
  responseCode : Option ℚ
  code : Option String
deriving DecidableEq, Repr

inductive SendFailureClassification
  | permanent
  | transient
deriving DecidableEq, Repr

def classifySendFailure (failure : SendFailure) : SendFailureClassification :=
  match failure.responseCode with
  | some responseCode =>
      if 500 ≤ responseCode ∧ responseCode < 600 then .permanent else .transient
  | none => if failure.code = some "EAUTH" then .permanent else .transient

inductive Channel
  | smtp
  | console
deriving DecidableEq, Repr

/-- What each sender does when it is handed a message. -/
structure SendOutcomes where
  smtp : Except SendFailure Unit
  console : Except SendFailure Unit

def consoleSend (outcomes : SendOutcomes) : Except SendFailure Channel :=
  match outcomes.console with
  | .ok _ => .ok .console
  | .error failure => .error failure

/-- `DegradingNotificationSender.send`. -/
def degradingSend (outcomes : SendOutcomes) : Except SendFailure Channel :=
  match outcomes.smtp with
  | .ok _ => .ok .smtp
  | .error failure =>
      match classifySendFailure failure with
      | .transient => .error failure
      | .permanent => consoleSend outcomes

/-- The sender bound at start-up, by whether SMTP is configured. -/
inductive SenderBinding
  | smtp
  | console
deriving DecidableEq, Repr

def SenderBinding.send : SenderBinding → SendOutcomes → Except SendFailure Channel
  | .smtp, outcomes => degradingSend outcomes
  | .console, outcomes => consoleSend outcomes

/-! ## One attempt -/

inductive ConsumptionOutcome
  | processed
  | duplicate
deriving DecidableEq, Repr

/-- How the transaction that claims the row ends. -/
inductive ClaimOutcome
  /-- It commits, or finds the row. -/
  | answered
  /-- It is reported as an error, whether or not it committed the row. -/
  | failed (recorded : Bool)
deriving DecidableEq, Repr

/-- How the transaction that deletes the row ends. -/
inductive DeletionOutcome
  | answered
  | failed (deleted : Bool)
deriving DecidableEq, Repr

/-- How the publication on the dead-letter topic ends. -/
inductive PublishOutcome
  | published
  | failed (reached : Bool)
deriving DecidableEq, Repr

structure AttemptOutcomes where
  claim : ClaimOutcome
  send : SendOutcomes
  deletion : DeletionOutcome

inductive AttemptError
  | claim
  | template (message : String)
  | send (failure : SendFailure)
deriving DecidableEq, Repr

/-- A send that returned. -/
structure SentNotification where
  channel : Channel
  message : NotificationMessage
deriving DecidableEq, Repr

/-- A message on the dead-letter topic of `originalTopic`. -/
structure DeadNotification where
  originalTopic : Topic
  envelope : Envelope
  failedConsumer : ConsumerName
  attempts : Nat
  error : Option AttemptError
deriving DecidableEq, Repr

structure NotificationSystem where
  processedEvents : List ProcessedEvent
  sent : List SentNotification
  deadLetters : List DeadNotification
deriving DecidableEq, Repr

structure NotificationService where
  binding : SenderBinding
  /-- The template of each command. -/
  buildMessage : NotifyCommand → Envelope → Except String NotificationMessage
  policy : FactRetryPolicy

/-- The row of an event in this service's ledger. -/
def rowOf (eventId : EventId) : ProcessedEvent := ⟨eventId, .notifications⟩

namespace NotificationSystem

def initial : NotificationSystem :=
  { processedEvents := []
    sent := []
    deadLetters := [] }

def record (system : NotificationSystem) (eventId : EventId) : NotificationSystem :=
  { system with processedEvents := system.processedEvents.insert (rowOf eventId) }

def unrecord (system : NotificationSystem) (eventId : EventId) :
    NotificationSystem :=
  { system with
    processedEvents := system.processedEvents.filter (· ≠ rowOf eventId) }

/-- `IdempotentConsumer.runOnce` with a work that does nothing. -/
def runOnce (system : NotificationSystem) (eventId : EventId)
    (outcome : ClaimOutcome) :
    Except AttemptError ConsumptionOutcome × NotificationSystem :=
  match outcome with
  | .answered =>
      if rowOf eventId ∈ system.processedEvents then
        (.ok .duplicate, system)
      else
        (.ok .processed, system.record eventId)
  | .failed true => (.error .claim, system.record eventId)
  | .failed false => (.error .claim, system)

/-- `ProcessedEventsCompensation.delete`; its failure is logged and swallowed. -/
def compensate (system : NotificationSystem) (eventId : EventId)
    (outcome : DeletionOutcome) : NotificationSystem :=
  match outcome with
  | .answered => system.unrecord eventId
  | .failed true => system.unrecord eventId
  | .failed false => system

end NotificationSystem

namespace NotificationService

/-- Renders the message of a fact and hands it to the bound sender. -/
def buildAndSend (service : NotificationService) (command : NotifyCommand)
    (envelope : Envelope) (outcomes : SendOutcomes) :
    Except AttemptError SentNotification :=
  match service.buildMessage command envelope with
  | .error message => .error (.template message)
  | .ok message =>
      match service.binding.send outcomes with
      | .error failure => .error (.send failure)
      | .ok channel =>
          .ok
            { channel := channel
              message :=
                { message with
                  messageId := some envelope.eventId
                  correlationId := some envelope.correlationId } }

/-- `NotificationDispatchService.dispatch`. -/
def dispatch (service : NotificationService) (command : NotifyCommand)
    (envelope : Envelope) (outcomes : AttemptOutcomes)
    (system : NotificationSystem) :
    Except AttemptError ConsumptionOutcome × NotificationSystem :=
  match system.runOnce envelope.eventId outcomes.claim with
  | (.error error, claimed) => (.error error, claimed)
  | (.ok .duplicate, claimed) => (.ok .duplicate, claimed)
  | (.ok .processed, claimed) =>
      match service.buildAndSend command envelope outcomes.send with
      | .ok notification =>
          (.ok .processed, { claimed with sent := claimed.sent ++ [notification] })
      | .error error =>
          (.error error, claimed.compensate envelope.eventId outcomes.deletion)

/-! ## One delivery -/

/-- A delivery of a fact, with an outcome for each attempt of the policy and for
the publication that follows when all of them fail. -/
structure Delivery (service : NotificationService) where
  sourceTopic : Topic
  envelope : Envelope
  attempts : List AttemptOutcomes
  length_attempts : attempts.length = service.policy.maxAttempts
  publish : PublishOutcome

/-- How the loop over the attempts is left. -/
inductive LoopResult
  | succeeded
  | exhausted (lastError : Option AttemptError)
deriving DecidableEq, Repr

/-- The loop of `FactRetryDispatcher.dispatch`. -/
def attemptAll (service : NotificationService) (command : NotifyCommand)
    (envelope : Envelope) :
    List AttemptOutcomes → Option AttemptError → NotificationSystem →
      LoopResult × NotificationSystem
  | [], lastError, system => (.exhausted lastError, system)
  | outcomes :: rest, _, system =>
      match service.dispatch command envelope outcomes system with
      | (.ok _, next) => (.succeeded, next)
      | (.error error, next) =>
          service.attemptAll command envelope rest (some error) next

/-- What the DLQ publisher sends for a delivery. -/
def deadLetter (service : NotificationService) (delivery : service.Delivery)
    (lastError : Option AttemptError) : DeadNotification :=
  { originalTopic := delivery.sourceTopic
    envelope := delivery.envelope
    failedConsumer := .notifications
    attempts := service.policy.maxAttempts
    error := lastError }

inductive DispatchResult
  | returned
  | thrown
deriving DecidableEq, Repr

/-- `FactRetryDispatcher.dispatch`. -/
def retryDispatch (service : NotificationService) (command : NotifyCommand)
    (delivery : service.Delivery) (system : NotificationSystem) :
    DispatchResult × NotificationSystem :=
  match service.attemptAll command delivery.envelope delivery.attempts none system with
  | (.succeeded, next) => (.returned, next)
  | (.exhausted lastError, next) =>
      let lettered : NotificationSystem :=
        { next with
          deadLetters := next.deadLetters ++ [service.deadLetter delivery lastError] }
      match delivery.publish with
      | .published => (.returned, lettered)
      | .failed true => (.thrown, lettered)
      | .failed false => (.thrown, next)

/-- `NotificationFactsController.route`: a fact that is not notified is
acknowledged only. -/
def route (service : NotificationService) (delivery : service.Delivery)
    (system : NotificationSystem) : DispatchResult × NotificationSystem :=
  match notifyCommandFor delivery.envelope.eventType with
  | none => (.returned, system)
  | some command => service.retryDispatch command delivery system

/-- The deliveries of a run, one after the other. -/
def routeAll (service : NotificationService) :
    List service.Delivery → NotificationSystem → NotificationSystem
  | [], system => system
  | delivery :: rest, system =>
      service.routeAll rest (service.route delivery system).2

end NotificationService

end OrderToCash.Notifications
