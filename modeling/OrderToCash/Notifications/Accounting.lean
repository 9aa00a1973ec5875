import OrderToCash.Notifications.Dispatch
import Mathlib.Tactic.Tauto

/-!
# What becomes of a notification

The ledger keeps a second attempt from sending again, and the attempt that does
not send takes its row back.  Where it cannot, the row stands for a notification
nobody sent: the next attempt that reaches the ledger takes the fact for done.
-/

namespace OrderToCash.Notifications

open OrderToCash.Contracts
open OrderToCash.Messaging

/-! ## Outcomes in their order -/

/-- What the outcomes of a delivery say about one attempt, or about the
publication after the last one. -/
inductive Occurrence
  | attempt (claim : ClaimOutcome) (sends : Bool) (deletion : DeletionOutcome)
  | publication (reached : Bool)
deriving DecidableEq, Repr

namespace Occurrence

/-- On a ledger without the row: it fails and leaves the row behind. -/
def leavesRow : Occurrence → Bool
  | .attempt (.failed recorded) _ _ => recorded
  | .attempt .answered false (.failed deleted) => !deleted
  | _ => false

/-- On a ledger without the row: it fails and leaves none behind. -/
def undone : Occurrence → Bool
  | .attempt (.failed recorded) _ _ => !recorded
  | .attempt .answered false .answered => true
  | .attempt .answered false (.failed deleted) => deleted
  | .attempt .answered true _ => false
  | .publication reached => !reached

/-- An attempt that reaches the ledger. -/
def answered : Occurrence → Bool
  | .attempt .answered _ _ => true
  | _ => false

/-- An attempt that does not reach the ledger, or a publication that does not
reach the broker. -/
def unanswered : Occurrence → Bool
  | .attempt .answered _ _ => false
  | .attempt (.failed _) _ _ => true
  | .publication reached => !reached

end Occurrence

/-- An attempt is answered, before the fact reaches the dead-letter topic, by the
row that an earlier attempt did not get rid of. -/
def MetStranded (timeline : List Occurrence) : Prop :=
  ∃ between met after,
    timeline = between ++ met :: after ∧
      (∀ occurrence ∈ between, occurrence.unanswered = true) ∧
      met.answered = true

/-- Nothing is sent or published until an attempt leaves its row behind, and a
later one meets it. -/
def Strands (timeline : List Occurrence) : Prop :=
  ∃ before stranding after,
    timeline = before ++ stranding :: after ∧
      (∀ occurrence ∈ before, occurrence.undone = true) ∧
      stranding.leavesRow = true ∧
      MetStranded after

theorem not_metStranded_nil : ¬MetStranded [] := by
  rintro ⟨between, met, after, splits, -⟩
  simp at splits

theorem metStranded_cons (occurrence : Occurrence) (rest : List Occurrence) :
    MetStranded (occurrence :: rest) ↔
      occurrence.answered = true ∨
        occurrence.unanswered = true ∧ MetStranded rest := by
  constructor
  · rintro ⟨between, met, after, splits, unanswered, answered⟩
    cases between with
    | nil =>
        simp only [List.nil_append, List.cons.injEq] at splits
        exact Or.inl (splits.1 ▸ answered)
    | cons first between =>
        simp only [List.cons_append, List.cons.injEq] at splits
        rcases splits with ⟨rfl, splits⟩
        rw [List.forall_mem_cons] at unanswered
        exact Or.inr ⟨unanswered.1, between, met, after, splits, unanswered.2, answered⟩
  · rintro (answered | ⟨first, between, met, after, rfl, unanswered, answered⟩)
    · exact ⟨[], occurrence, rest, rfl, by simp, answered⟩
    · apply Exists.intro (occurrence :: between)
      exact ⟨met, after, rfl, List.forall_mem_cons.mpr ⟨first, unanswered⟩, answered⟩

theorem not_strands_nil : ¬Strands [] := by
  rintro ⟨before, stranding, after, splits, -⟩
  simp at splits

theorem strands_cons (occurrence : Occurrence) (rest : List Occurrence) :
    Strands (occurrence :: rest) ↔
      occurrence.leavesRow = true ∧ MetStranded rest ∨
        occurrence.undone = true ∧ Strands rest := by
  constructor
  · rintro ⟨before, stranding, after, splits, undone, leaves, met⟩
    cases before with
    | nil =>
        simp only [List.nil_append, List.cons.injEq] at splits
        rcases splits with ⟨rfl, rfl⟩
        exact Or.inl ⟨leaves, met⟩
    | cons first before =>
        simp only [List.cons_append, List.cons.injEq] at splits
        rcases splits with ⟨rfl, splits⟩
        rw [List.forall_mem_cons] at undone
        exact Or.inr ⟨undone.1, before, stranding, after, splits, undone.2, leaves, met⟩
  · rintro (⟨leaves, met⟩ | ⟨first, before, stranding, after, rfl, undone, leaves, met⟩)
    · exact ⟨[], occurrence, rest, rfl, by simp, leaves, met⟩
    · apply Exists.intro (occurrence :: before)
      exact ⟨stranding, after, rfl, List.forall_mem_cons.mpr ⟨first, undone⟩, leaves, met⟩

/-- The notification is lost from here on, by whether the row stands. -/
def Loses (claimed : Bool) (timeline : List Occurrence) : Prop :=
  if claimed then MetStranded timeline else Strands timeline

theorem not_loses_nil (claimed : Bool) : ¬Loses claimed [] := by
  cases claimed with
  | false => exact not_strands_nil
  | true => exact not_metStranded_nil

/-- A fact that reaches the dead-letter topic is not lost. -/
theorem not_loses_published (claimed : Bool) (rest : List Occurrence) :
    ¬Loses claimed (.publication true :: rest) := by
  cases claimed <;>
    simp [Loses, metStranded_cons, strands_cons, Occurrence.answered,
      Occurrence.unanswered, Occurrence.leavesRow, Occurrence.undone]

theorem loses_unpublished (claimed : Bool) (rest : List Occurrence) :
    Loses claimed (.publication false :: rest) ↔ Loses claimed rest := by
  cases claimed <;>
    simp [Loses, metStranded_cons, strands_cons, Occurrence.answered,
      Occurrence.unanswered, Occurrence.leavesRow, Occurrence.undone]

/-- Whether the broker gets the letter. -/
def PublishOutcome.reached : PublishOutcome → Bool
  | .published => true
  | .failed reached => reached

namespace NotificationSystem

/-- The ledger holds the row of the event. -/
def claimed (system : NotificationSystem) (eventId : EventId) : Bool :=
  decide (rowOf eventId ∈ system.processedEvents)

/-- The sends of an event's notification that returned. -/
def sentFor (system : NotificationSystem) (eventId : EventId) :
    List SentNotification :=
  system.sent.filter fun notification => notification.message.messageId = some eventId

/-- The notification of the event was sent, to whichever channel, or its fact was
dead-lettered. -/
def Accounted (system : NotificationSystem) (eventId : EventId) : Prop :=
  system.sentFor eventId ≠ [] ∨
    ∃ letter ∈ system.deadLetters, letter.envelope.eventId = eventId

theorem rowOf_inj {eventId eventId' : EventId} :
    rowOf eventId = rowOf eventId' ↔ eventId = eventId' := by
  simp [rowOf]

@[simp]
theorem claimed_record (system : NotificationSystem) (recorded eventId : EventId) :
    (system.record recorded).claimed eventId =
      (decide (eventId = recorded) || system.claimed eventId) := by
  simp [claimed, record, rowOf_inj, List.mem_insert_iff]

@[simp]
theorem claimed_unrecord (system : NotificationSystem) (removed eventId : EventId) :
    (system.unrecord removed).claimed eventId =
      (decide (eventId ≠ removed) && system.claimed eventId) := by
  by_cases same : eventId = removed
  · simp [claimed, unrecord, same]
  · simp [claimed, unrecord, same, rowOf_inj]

/-- A compensated claim leaves its row behind where the deletion did not happen,
and touches no other row. -/
theorem claimed_compensate (system : NotificationSystem)
    (claimedId eventId : EventId) (outcome : DeletionOutcome) :
    ((system.record claimedId).compensate claimedId outcome).claimed eventId =
      if eventId = claimedId then decide (outcome = .failed false)
      else system.claimed eventId := by
  unfold compensate
  by_cases same : eventId = claimedId
  · split <;> simp [same]
  · split <;> simp [same]

theorem compensate_frame (system : NotificationSystem) (eventId : EventId)
    (outcome : DeletionOutcome) :
    (system.compensate eventId outcome).sent = system.sent ∧
      (system.compensate eventId outcome).deadLetters = system.deadLetters := by
  unfold compensate
  split <;> exact ⟨rfl, rfl⟩

end NotificationSystem

namespace NotificationService

open NotificationSystem

variable (service : NotificationService)

/-- What the outcomes of an attempt say about it. -/
def occurrenceOf (command : NotifyCommand) (envelope : Envelope)
    (outcomes : AttemptOutcomes) : Occurrence :=
  .attempt outcomes.claim
    (service.buildAndSend command envelope outcomes.send).isOk outcomes.deletion

theorem buildAndSend_messageId {command : NotifyCommand} {envelope : Envelope}
    {outcomes : SendOutcomes} {notification : SentNotification}
    (sends : service.buildAndSend command envelope outcomes = .ok notification) :
    notification.message.messageId = some envelope.eventId := by
  unfold buildAndSend at sends
  split at sends
  · contradiction
  · split at sends
    · contradiction
    · cases sends
      rfl

/-! ## One attempt -/

section Attempt

variable {service}
variable {command : NotifyCommand} {envelope : Envelope}
variable {outcomes : AttemptOutcomes} {system next : NotificationSystem}

/-- What one attempt does to the ledger and to the sends. -/
theorem dispatch_cases {result : Except AttemptError ConsumptionOutcome}
    (dispatched : service.dispatch command envelope outcomes system = (result, next)) :
    (outcomes.claim = .answered ∧ system.claimed envelope.eventId = true ∧
        result = .ok .duplicate ∧ next = system) ∨
      (∃ recorded, outcomes.claim = .failed recorded ∧ result = .error .claim ∧
        next = if recorded then system.record envelope.eventId else system) ∨
      (∃ notification, outcomes.claim = .answered ∧
        system.claimed envelope.eventId = false ∧
        service.buildAndSend command envelope outcomes.send = .ok notification ∧
        result = .ok .processed ∧
        next =
          { system.record envelope.eventId with
            sent := system.sent ++ [notification] }) ∨
      (∃ error, outcomes.claim = .answered ∧
        system.claimed envelope.eventId = false ∧
        service.buildAndSend command envelope outcomes.send = .error error ∧
        result = .error error ∧
        next =
          (system.record envelope.eventId).compensate envelope.eventId
            outcomes.deletion) := by
  unfold dispatch at dispatched
  cases claim : outcomes.claim with
  | failed recorded =>
      apply Or.inr
      apply Or.inl
      apply Exists.intro recorded
      cases recorded with
      | false =>
          rw [claim] at dispatched
          cases dispatched
          exact ⟨rfl, rfl, rfl⟩
      | true =>
          rw [claim] at dispatched
          cases dispatched
          exact ⟨rfl, rfl, rfl⟩
  | answered =>
      rw [claim] at dispatched
      by_cases found : rowOf envelope.eventId ∈ system.processedEvents
      · apply Or.inl
        simp only [runOnce, if_pos found, Prod.mk.injEq] at dispatched
        exact ⟨rfl, decide_eq_true found, dispatched.1.symm, dispatched.2.symm⟩
      · have free : system.claimed envelope.eventId = false := decide_eq_false found
        simp only [runOnce, if_neg found] at dispatched
        cases sends : service.buildAndSend command envelope outcomes.send with
        | ok notification =>
            simp only [sends, Prod.mk.injEq] at dispatched
            apply Or.inr
            apply Or.inr
            apply Or.inl
            exact ⟨notification, rfl, free, rfl, dispatched.1.symm, dispatched.2.symm⟩
        | error error =>
            simp only [sends, Prod.mk.injEq] at dispatched
            apply Or.inr
            apply Or.inr
            apply Or.inr
            exact ⟨error, rfl, free, rfl, dispatched.1.symm, dispatched.2.symm⟩

/-- An attempt leaves the standing of every other event alone. -/
theorem dispatch_other {result : Except AttemptError ConsumptionOutcome}
    (dispatched : service.dispatch command envelope outcomes system = (result, next))
    {eventId : EventId} (other : envelope.eventId ≠ eventId) :
    next.claimed eventId = system.claimed eventId ∧
      next.sentFor eventId = system.sentFor eventId := by
  rcases dispatch_cases dispatched with
    ⟨-, -, -, rfl⟩ | ⟨recorded, -, -, rfl⟩ | ⟨notification, -, -, sends, -, rfl⟩ |
      ⟨error, -, -, -, -, rfl⟩
  · exact ⟨rfl, rfl⟩
  · cases recorded with
    | false => exact ⟨rfl, rfl⟩
    | true =>
        constructor
        · simp [Ne.symm other]
        · rfl
  · constructor
    · simpa [claimed, Ne.symm other] using
        claimed_record system envelope.eventId eventId
    · have names := service.buildAndSend_messageId sends
      simp [sentFor, names, other]
  · constructor
    · simp [claimed_compensate, Ne.symm other]
    · rw [sentFor, (compensate_frame _ _ _).1]
      rfl

/-- An attempt does not dead-letter. -/
theorem dispatch_deadLetters {result : Except AttemptError ConsumptionOutcome}
    (dispatched : service.dispatch command envelope outcomes system = (result, next)) :
    next.deadLetters = system.deadLetters := by
  rcases dispatch_cases dispatched with
    ⟨-, -, -, rfl⟩ | ⟨recorded, -, -, rfl⟩ | ⟨notification, -, -, -, -, rfl⟩ |
      ⟨error, -, -, -, -, rfl⟩
  · rfl
  · cases recorded <;> rfl
  · rfl
  · exact (compensate_frame _ _ _).2

/-- An attempt adds to the sends of its fact only where it found no row, and
leaves one then. -/
theorem dispatch_sentFor {result : Except AttemptError ConsumptionOutcome}
    (dispatched : service.dispatch command envelope outcomes system = (result, next)) :
    (next.sentFor envelope.eventId = system.sentFor envelope.eventId ∧
        (system.claimed envelope.eventId = true →
          next.claimed envelope.eventId = true)) ∨
      ∃ notification,
        system.claimed envelope.eventId = false ∧
          next.claimed envelope.eventId = true ∧
          next.sentFor envelope.eventId =
            system.sentFor envelope.eventId ++ [notification] := by
  rcases dispatch_cases dispatched with
    ⟨-, -, -, rfl⟩ | ⟨recorded, -, -, rfl⟩ | ⟨notification, -, free, sends, -, rfl⟩ |
      ⟨error, -, free, -, -, rfl⟩
  · exact Or.inl ⟨rfl, id⟩
  · apply Or.inl
    cases recorded with
    | false => exact ⟨rfl, id⟩
    | true => exact ⟨rfl, fun _ => by simp⟩
  · apply Or.inr
    apply Exists.intro notification
    apply And.intro free
    constructor
    · simpa [claimed] using claimed_record system envelope.eventId envelope.eventId
    · have names := service.buildAndSend_messageId sends
      simp [sentFor, names]
  · apply Or.inl
    constructor
    · rw [sentFor, (compensate_frame _ _ _).1]
      rfl
    · intro stands
      rw [free] at stands
      contradiction

/-- What an attempt of a fact that is not accounted for has come to: it is done
with, and the fact accounted for or lost; or it failed, and the outcomes that
lose the notification are those that lose it from the next one on. -/
theorem dispatch_loses {result : Except AttemptError ConsumptionOutcome}
    (dispatched : service.dispatch command envelope outcomes system = (result, next))
    (unaccounted : ¬system.Accounted envelope.eventId) (rest : List Occurrence) :
    match result with
    | .ok _ =>
        Loses (system.claimed envelope.eventId)
            (service.occurrenceOf command envelope outcomes :: rest) ↔
          ¬next.Accounted envelope.eventId
    | .error _ =>
        ¬next.Accounted envelope.eventId ∧
          (Loses (system.claimed envelope.eventId)
              (service.occurrenceOf command envelope outcomes :: rest) ↔
            Loses (next.claimed envelope.eventId) rest) := by
  rcases dispatch_cases dispatched with
    ⟨claim, stands, rfl, rfl⟩ | ⟨recorded, claim, rfl, rfl⟩ |
      ⟨notification, claim, free, sends, rfl, rfl⟩ |
      ⟨error, claim, free, fails, rfl, rfl⟩
  · -- The row answers for a notification nobody sent.
    simp [Loses, stands, metStranded_cons, occurrenceOf, claim, Occurrence.answered,
      unaccounted]
  · cases recorded with
    | false =>
        apply And.intro unaccounted
        cases stands : system.claimed envelope.eventId <;>
          simp [Loses, stands, metStranded_cons, strands_cons, occurrenceOf, claim,
            Occurrence.answered, Occurrence.unanswered, Occurrence.leavesRow,
            Occurrence.undone]
    | true =>
        apply And.intro unaccounted
        cases stands : system.claimed envelope.eventId <;>
          simp [Loses, metStranded_cons, strands_cons, occurrenceOf, claim,
            Occurrence.answered, Occurrence.unanswered, Occurrence.leavesRow,
            Occurrence.undone]
  · have names := service.buildAndSend_messageId sends
    simp [Loses, free, strands_cons, occurrenceOf, claim, sends, Occurrence.leavesRow,
      Occurrence.undone, Except.isOk, Except.toBool, Accounted, sentFor, names]
  · constructor
    · intro accounted
      apply unaccounted
      rcases compensate_frame (system.record envelope.eventId) envelope.eventId
        outcomes.deletion with ⟨sent, letters⟩
      rwa [Accounted, sentFor, sent, letters] at accounted
    · rw [claimed_compensate, if_pos rfl]
      cases deletion : outcomes.deletion with
      | answered =>
          simp [Loses, free, strands_cons, occurrenceOf, claim, fails, deletion,
            Occurrence.leavesRow, Occurrence.undone, Except.isOk, Except.toBool]
      | failed deleted =>
          cases deleted <;>
            simp [Loses, free, strands_cons, occurrenceOf, claim, fails, deletion,
              Occurrence.leavesRow, Occurrence.undone, Except.isOk, Except.toBool]

end Attempt

/-! ## One delivery -/

/-- At most one send of an event's notification returned, and its row stands then. -/
def Once (system : NotificationSystem) (eventId : EventId) : Prop :=
  (system.sentFor eventId).length ≤ 1 ∧
    (system.sentFor eventId ≠ [] → system.claimed eventId = true)

section Delivery

variable {service}
variable {command : NotifyCommand} {system next : NotificationSystem}
variable {eventId : EventId}

theorem dispatch_once {envelope : Envelope} {outcomes : AttemptOutcomes}
    {result : Except AttemptError ConsumptionOutcome}
    (dispatched : service.dispatch command envelope outcomes system = (result, next))
    (once : Once system eventId) : Once next eventId := by
  by_cases own : envelope.eventId = eventId
  · subst own
    rcases dispatch_sentFor dispatched with
      ⟨same, keeps⟩ | ⟨notification, free, stands, more⟩
    · constructor
      · rw [same]
        exact once.1
      · intro sent
        rw [same] at sent
        exact keeps (once.2 sent)
    · have none : system.sentFor envelope.eventId = [] := by
        by_contra sent
        rw [once.2 sent] at free
        contradiction
      constructor
      · simp [more, none]
      · exact fun _ => stands
  · rcases dispatch_other dispatched own with ⟨claim, sent⟩
    rw [Once, claim, sent]
    exact once

theorem attemptAll_once (service : NotificationService) (command : NotifyCommand)
    (envelope : Envelope) (attempts : List AttemptOutcomes)
    (lastError : Option AttemptError) (once : Once system eventId) :
    Once (service.attemptAll command envelope attempts lastError system).2 eventId := by
  induction attempts generalizing lastError system with
  | nil => exact once
  | cons outcomes rest inductionHypothesis =>
      unfold attemptAll
      split
      · rename_i dispatched
        exact dispatch_once dispatched once
      · rename_i dispatched
        exact inductionHypothesis _ (dispatch_once dispatched once)

theorem attemptAll_other (service : NotificationService) (command : NotifyCommand)
    (envelope : Envelope) (attempts : List AttemptOutcomes)
    (lastError : Option AttemptError) (system : NotificationSystem)
    (other : envelope.eventId ≠ eventId) :
    (service.attemptAll command envelope attempts lastError system).2.claimed eventId =
        system.claimed eventId ∧
      (service.attemptAll command envelope attempts lastError system).2.sentFor eventId =
        system.sentFor eventId := by
  induction attempts generalizing lastError system with
  | nil => exact ⟨rfl, rfl⟩
  | cons outcomes rest inductionHypothesis =>
      unfold attemptAll
      split
      · rename_i dispatched
        exact dispatch_other dispatched other
      · rename_i dispatched
        rcases dispatch_other dispatched other with ⟨claim, sent⟩
        rw [← claim, ← sent]
        exact inductionHypothesis _ _

theorem attemptAll_deadLetters (service : NotificationService) (command : NotifyCommand)
    (envelope : Envelope) (attempts : List AttemptOutcomes)
    (lastError : Option AttemptError) (system : NotificationSystem) :
    (service.attemptAll command envelope attempts lastError system).2.deadLetters =
      system.deadLetters := by
  induction attempts generalizing lastError system with
  | nil => rfl
  | cons outcomes rest inductionHypothesis =>
      unfold attemptAll
      split
      · rename_i dispatched
        exact dispatch_deadLetters dispatched
      · rename_i dispatched
        rw [← dispatch_deadLetters dispatched]
        exact inductionHypothesis _ _

/-- Sends are not taken back. -/
theorem attemptAll_accounted (service : NotificationService) (command : NotifyCommand)
    (envelope : Envelope) (attempts : List AttemptOutcomes)
    (lastError : Option AttemptError) (accounted : system.Accounted eventId) :
    (service.attemptAll command envelope attempts lastError system).2.Accounted
      eventId := by
  induction attempts generalizing lastError system with
  | nil => exact accounted
  | cons outcomes rest inductionHypothesis =>
      have kept : ∀ {result : Except AttemptError ConsumptionOutcome}
          {next : NotificationSystem},
          service.dispatch command envelope outcomes system = (result, next) →
          next.Accounted eventId := by
        intro result next dispatched
        rcases accounted with sent | letters
        · apply Or.inl
          by_cases own : envelope.eventId = eventId
          · subst own
            rcases dispatch_sentFor dispatched with ⟨same, -⟩ | ⟨_, -, -, more⟩
            · rwa [same]
            · simp [more]
          · rwa [(dispatch_other dispatched own).2]
        · apply Or.inr
          rwa [dispatch_deadLetters dispatched]
      unfold attemptAll
      split
      · rename_i dispatched
        exact kept dispatched
      · rename_i dispatched
        exact inductionHypothesis _ (kept dispatched)

/-- The loop over the attempts, by induction on those left. -/
theorem attemptAll_loses (service : NotificationService) (command : NotifyCommand)
    (envelope : Envelope) (attempts : List AttemptOutcomes)
    (lastError : Option AttemptError)
    (unaccounted : ¬system.Accounted envelope.eventId) (rest : List Occurrence) :
    match service.attemptAll command envelope attempts lastError system with
    | (.succeeded, next) =>
        Loses (system.claimed envelope.eventId)
            (attempts.map (service.occurrenceOf command envelope) ++ rest) ↔
          ¬next.Accounted envelope.eventId
    | (.exhausted _, next) =>
        ¬next.Accounted envelope.eventId ∧
          (Loses (system.claimed envelope.eventId)
              (attempts.map (service.occurrenceOf command envelope) ++ rest) ↔
            Loses (next.claimed envelope.eventId) rest) := by
  induction attempts generalizing lastError system with
  | nil => exact ⟨unaccounted, Iff.rfl⟩
  | cons outcomes attempts inductionHypothesis =>
      rw [List.map_cons, List.cons_append]
      unfold attemptAll
      cases dispatched : service.dispatch command envelope outcomes system with
      | mk result next =>
          have attempted := dispatch_loses dispatched unaccounted
            (attempts.map (service.occurrenceOf command envelope) ++ rest)
          cases result with
          | ok outcome => exact attempted
          | error error =>
              rw [attempted.2]
              exact inductionHypothesis _ attempted.1

end Delivery

/-- The outcomes of a delivery in their order; a fact that is not notified is
not attempted. -/
def occurrences (delivery : service.Delivery) : List Occurrence :=
  match notifyCommandFor delivery.envelope.eventType with
  | none => []
  | some command =>
      delivery.attempts.map (service.occurrenceOf command delivery.envelope) ++
        [.publication delivery.publish.reached]

/-- The outcomes of the deliveries of one event. -/
def timeline (eventId : EventId) (deliveries : List service.Delivery) :
    List Occurrence :=
  (deliveries.filter fun delivery => delivery.envelope.eventId = eventId).flatMap
    service.occurrences

/-- The fact of a delivery owes a notification. -/
def Owes (delivery : service.Delivery) : Prop :=
  notifyCommandFor delivery.envelope.eventType ≠ none

/-- The delivery returned and its fact is not accounted for. -/
def Dropped (delivery : service.Delivery) (system : NotificationSystem) : Prop :=
  service.Owes delivery ∧ (service.route delivery system).1 = .returned ∧
    ¬(service.route delivery system).2.Accounted delivery.envelope.eventId

section Route

variable {service}
variable {delivery : service.Delivery} {system : NotificationSystem}
variable {eventId : EventId}

theorem route_once (once : Once system eventId) :
    Once (service.route delivery system).2 eventId := by
  unfold route
  split
  · exact once
  · rename_i command _
    have attempted := service.attemptAll_once command delivery.envelope
      delivery.attempts none once
    unfold retryDispatch
    split
    · rename_i looped
      rwa [looped] at attempted
    · rename_i looped
      rw [looped] at attempted
      split <;> exact attempted

theorem route_accounted (accounted : system.Accounted eventId) :
    (service.route delivery system).2.Accounted eventId := by
  unfold route
  split
  · exact accounted
  · rename_i command _
    have attempted := service.attemptAll_accounted command delivery.envelope
      delivery.attempts none accounted
    have lettered : ∀ {next : NotificationSystem} (letter : DeadNotification),
        next.Accounted eventId →
          Accounted { next with deadLetters := next.deadLetters ++ [letter] }
            eventId := by
      rintro next letter (sent | ⟨old, oldMem, its⟩)
      · exact Or.inl sent
      · exact Or.inr ⟨old, List.mem_append_left _ oldMem, its⟩
    unfold retryDispatch
    split
    · rename_i looped
      rwa [looped] at attempted
    · rename_i looped
      rw [looped] at attempted
      split
      · exact lettered _ attempted
      · exact lettered _ attempted
      · exact attempted

/-- A delivery of another event, or of a fact that is not notified, leaves the
standing of an event alone. -/
theorem route_other (system : NotificationSystem)
    (other : delivery.envelope.eventId ≠ eventId ∨ ¬service.Owes delivery) :
    (service.route delivery system).2.claimed eventId = system.claimed eventId ∧
      ((service.route delivery system).2.Accounted eventId ↔
        system.Accounted eventId) := by
  unfold route
  split
  · exact ⟨rfl, Iff.rfl⟩
  · rename_i command notified
    have foreign : delivery.envelope.eventId ≠ eventId := by
      rcases other with foreign | unowed
      · exact foreign
      · exact absurd (by rw [Owes, notified]; simp) unowed
    rcases service.attemptAll_other command delivery.envelope delivery.attempts none
      system foreign with ⟨claim, sent⟩
    have letters := service.attemptAll_deadLetters command delivery.envelope
      delivery.attempts none system
    unfold retryDispatch
    split
    · rename_i looped
      rw [looped] at claim sent letters
      exact ⟨claim, by rw [Accounted, sent, letters, Accounted]⟩
    · rename_i lastError next looped
      rw [looped] at claim sent letters
      simp only at sent letters
      have lettered :
          Accounted
              { next with
                deadLetters :=
                  next.deadLetters ++ [service.deadLetter delivery lastError] }
              eventId ↔ system.Accounted eventId := by
        have unnamed :
            (service.deadLetter delivery lastError).envelope.eventId ≠ eventId :=
          foreign
        simp only [Accounted, sentFor, letters, List.mem_append,
          List.mem_singleton, or_and_right, exists_or, exists_eq_left, unnamed,
          or_false]
        rw [← sentFor, ← sentFor, sent]
      split
      · exact ⟨claim, lettered⟩
      · exact ⟨claim, lettered⟩
      · exact ⟨claim, by simp only [Accounted, sent, letters]⟩

/-- A delivery of a notified fact that is not accounted for drops it, accounts
for it, or ends as its outcomes go on from the next delivery. -/
theorem route_loses (owes : service.Owes delivery)
    (unaccounted : ¬system.Accounted delivery.envelope.eventId)
    (rest : List Occurrence) :
    Loses (system.claimed delivery.envelope.eventId)
        (service.occurrences delivery ++ rest) ↔
      service.Dropped delivery system ∨
        ¬(service.route delivery system).2.Accounted delivery.envelope.eventId ∧
          Loses
            ((service.route delivery system).2.claimed delivery.envelope.eventId)
            rest := by
  cases notified : notifyCommandFor delivery.envelope.eventType with
  | none => exact absurd notified owes
  | some command =>
      have attempted := service.attemptAll_loses command delivery.envelope
        delivery.attempts none unaccounted
        (.publication delivery.publish.reached :: rest)
      simp only [Dropped, occurrences, route, notified, retryDispatch,
        List.append_assoc, List.singleton_append]
      cases looped : service.attemptAll command delivery.envelope delivery.attempts none
          system with
      | mk result next =>
          rw [looped] at attempted
          cases result with
          | succeeded =>
              simp only at attempted ⊢
              rw [attempted]
              constructor
              · intro lost
                exact Or.inl ⟨owes, trivial, lost⟩
              · rintro (⟨-, -, lost⟩ | ⟨lost, -⟩)
                · exact lost
                · exact lost
          | exhausted lastError =>
              rcases attempted with ⟨stillOpen, loses⟩
              rw [loses]
              have lettered :
                  Accounted
                    { next with
                      deadLetters :=
                        next.deadLetters ++ [service.deadLetter delivery lastError] }
                    delivery.envelope.eventId :=
                Or.inr ⟨_, List.mem_append_right _ (List.mem_singleton_self _), rfl⟩
              cases published : delivery.publish with
              | published =>
                  have settled : ¬Loses (next.claimed delivery.envelope.eventId)
                      (.publication true :: rest) := not_loses_published _ _
                  simp only [PublishOutcome.reached, settled, lettered, not_true,
                    and_false, false_and, or_false]
              | failed reached =>
                  cases reached with
                  | true =>
                      have settled : ¬Loses (next.claimed delivery.envelope.eventId)
                          (.publication true :: rest) := not_loses_published _ _
                      simp only [PublishOutcome.reached, settled, lettered, not_true,
                        and_false, false_and, or_false]
                  | false =>
                      simp only [PublishOutcome.reached, loses_unpublished, stillOpen,
                        reduceCtorEq, not_false_eq_true, false_and, and_false,
                        true_and, false_or]

end Route

/-! ## Runs -/

/-- A delivery of the event, in the state the earlier ones lead to, drops it. -/
def Drops (eventId : EventId) (deliveries : List service.Delivery)
    (system : NotificationSystem) : Prop :=
  ∃ before delivery after,
    deliveries = before ++ delivery :: after ∧
      delivery.envelope.eventId = eventId ∧
      service.Dropped delivery (service.routeAll before system)

section Runs

variable {service}
variable {delivery : service.Delivery} {deliveries : List service.Delivery}
variable {system : NotificationSystem} {eventId : EventId}

theorem drops_cons :
    service.Drops eventId (delivery :: deliveries) system ↔
      delivery.envelope.eventId = eventId ∧ service.Dropped delivery system ∨
        service.Drops eventId deliveries (service.route delivery system).2 := by
  constructor
  · rintro ⟨before, dropped, after, splits, its, drops⟩
    cases before with
    | nil =>
        simp only [List.nil_append, List.cons.injEq] at splits
        rcases splits with ⟨rfl, rfl⟩
        exact Or.inl ⟨its, drops⟩
    | cons first before =>
        simp only [List.cons_append, List.cons.injEq] at splits
        rcases splits with ⟨rfl, rfl⟩
        exact Or.inr ⟨before, dropped, after, rfl, its, drops⟩
  · rintro (⟨its, drops⟩ | ⟨before, dropped, after, rfl, its, drops⟩)
    · exact ⟨[], delivery, deliveries, rfl, its, drops⟩
    · exact ⟨delivery :: before, dropped, after, rfl, its, drops⟩

theorem routeAll_once (deliveries : List service.Delivery)
    (once : Once system eventId) :
    Once (service.routeAll deliveries system) eventId := by
  induction deliveries generalizing system with
  | nil => exact once
  | cons delivery rest inductionHypothesis =>
      exact inductionHypothesis (route_once once)

/-- What is accounted for stays so. -/
theorem not_drops_of_accounted (deliveries : List service.Delivery)
    (accounted : system.Accounted eventId) :
    ¬service.Drops eventId deliveries system := by
  induction deliveries generalizing system with
  | nil =>
      rintro ⟨before, dropped, after, splits, -⟩
      simp at splits
  | cons delivery rest inductionHypothesis =>
      rw [drops_cons]
      rintro (⟨rfl, -, -, lost⟩ | later)
      · exact lost (route_accounted accounted)
      · exact inductionHypothesis (route_accounted accounted) later

/-- The outcomes of the deliveries alone say whether an event that is not
accounted for is dropped, by induction on the deliveries. -/
theorem drops_iff_loses (deliveries : List service.Delivery)
    (unaccounted : ¬system.Accounted eventId) :
    service.Drops eventId deliveries system ↔
      Loses (system.claimed eventId) (service.timeline eventId deliveries) := by
  induction deliveries generalizing system with
  | nil =>
      constructor
      · rintro ⟨before, dropped, after, splits, -⟩
        simp at splits
      · intro loses
        exact absurd loses (not_loses_nil _)
  | cons delivery rest inductionHypothesis =>
      rw [drops_cons]
      by_cases its : delivery.envelope.eventId = eventId
      · have splits : service.timeline eventId (delivery :: rest) =
            service.occurrences delivery ++ service.timeline eventId rest := by
          simp [timeline, its]
        rw [splits]
        by_cases owes : service.Owes delivery
        · subst its
          rw [route_loses owes unaccounted]
          by_cases next : (service.route delivery system).2.Accounted
              delivery.envelope.eventId
          · simp [next, not_drops_of_accounted rest next]
          · simp [next, inductionHypothesis next]
        · have unowed : delivery.envelope.eventId ≠ eventId ∨ ¬service.Owes delivery :=
            Or.inr owes
          rcases route_other system unowed with ⟨claim, accounts⟩
          have skipped : service.occurrences delivery = [] := by
            rw [Owes, not_not] at owes
            simp [occurrences, owes]
          rw [inductionHypothesis (mt accounts.mp unaccounted), claim, skipped]
          simp [Dropped, owes]
      · rcases route_other system (Or.inl its) with ⟨claim, accounts⟩
        have skipped : service.timeline eventId (delivery :: rest) =
            service.timeline eventId rest := by
          simp [timeline, its]
        rw [inductionHypothesis (mt accounts.mp unaccounted), claim, skipped]
        simp [its]

end Runs

/-- No notification is sent twice, and none is lost where a dispatch returned. -/
def Kept (deliveries : List service.Delivery) : Prop :=
  (∀ eventId,
      ((service.routeAll deliveries initial).sentFor eventId).length ≤ 1) ∧
    ∀ before delivery after,
      deliveries = before ++ delivery :: after →
      service.Owes delivery →
      (service.route delivery (service.routeAll before initial)).1 = .returned →
      (service.route delivery (service.routeAll before initial)).2.Accounted
        delivery.envelope.eventId

/-- At most one send for an event returns, whatever the outcomes. -/
theorem sentFor_length_le_one (deliveries : List service.Delivery)
    (eventId : EventId) :
    ((service.routeAll deliveries initial).sentFor eventId).length ≤ 1 :=
  (routeAll_once deliveries ⟨by simp [sentFor, initial], by simp [sentFor, initial]⟩).1

/-- Notifications are kept exactly where no row that outlived a failed attempt is
met again before its fact is dead-lettered. -/
theorem notifications_kept_iff (deliveries : List service.Delivery) :
    service.Kept deliveries ↔
      ∀ eventId, ¬Strands (service.timeline eventId deliveries) := by
  have nothing : ∀ eventId, ¬initial.Accounted eventId := by
    intro eventId
    simp [Accounted, sentFor, initial]
  have unclaimed : ∀ eventId, initial.claimed eventId = false := by
    intro eventId
    simp [claimed, initial]
  have lost : ∀ eventId, service.Drops eventId deliveries initial ↔
      Strands (service.timeline eventId deliveries) := by
    intro eventId
    rw [drops_iff_loses deliveries (nothing eventId), unclaimed]
    rfl
  constructor
  · rintro ⟨-, kept⟩ eventId strands
    rcases (lost eventId).mpr strands with
      ⟨before, delivery, after, splits, -, owes, returned, dropped⟩
    exact dropped (kept before delivery after splits owes returned)
  · intro unstranded
    constructor
    · exact service.sentFor_length_le_one deliveries
    · intro before delivery after splits owes returned
      by_contra dropped
      apply unstranded delivery.envelope.eventId
      rw [← lost]
      exact ⟨before, delivery, after, splits, rfl, owes, returned, dropped⟩

/-! ## A row that could not be deleted -/

/-- The mail server is down and the console in order. -/
def unreachable : SendOutcomes :=
  { smtp := .error ⟨none, some "ECONNECTION"⟩
    console := .ok () }

def mailing : NotificationService :=
  { binding := .smtp
    buildMessage := fun _ envelope =>
      .ok
        { recipient := "retailer"
          subject := "Order completed"
          text := ""
          html := ""
          messageId := none
          correlationId := some envelope.correlationId }
    policy := ⟨3⟩ }

/-- The database fails the first deletion and is back for the second attempt. -/
def unreachableDelivery : mailing.Delivery :=
  { sourceTopic := .orders
    envelope :=
      { eventId := ⟨.orders, 0⟩
        fact := .orderCompleted
          { orderReference := ⟨1⟩
            retailerCode := "RET-0001"
            companyCode := "COM-0001"
            currency := "EUR"
            totalAmount := 100 } }
    attempts :=
      [ ⟨.answered, unreachable, .failed false⟩,
        ⟨.answered, unreachable, .answered⟩,
        ⟨.answered, unreachable, .answered⟩ ]
    length_attempts := rfl
    publish := .published }

/-- Every send of the only delivery fails, its dispatch returns, and its fact is
on no dead-letter topic. -/
theorem notifications_not_always_kept :
    ¬∀ (service : NotificationService) (deliveries : List service.Delivery),
        service.Kept deliveries := by
  intro always
  have kept := (always mailing [unreachableDelivery]).2 [] unreachableDelivery [] rfl
    (by simp [Owes, unreachableDelivery, notifyCommandFor, Envelope.eventType,
      Fact.eventType])
  have ends : mailing.route unreachableDelivery initial =
      (.returned, { initial with processedEvents := [rowOf ⟨.orders, 0⟩] }) := by
    decide
  rw [routeAll, ends] at kept
  rcases kept rfl with sent | ⟨letter, letterMem, -⟩
  · exact sent rfl
  · simp [initial] at letterMem

end NotificationService

end OrderToCash.Notifications
