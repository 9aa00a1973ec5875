import OrderToCash.Web.OrderStreamClient

/-!
# What the live signal announces

The signal of an update is built from the last entry of the timeline, which the
causal order has just arranged anew.  It announces the fact that was applied
where that fact sorts last, and another one where a fact arrives late.
-/

namespace OrderToCash.Web

open OrderToCash.Causal
open OrderToCash.Contracts
open OrderToCash.Kernel
open OrderToCash.Orders
open OrderToCash.Projector

section Deliveries

variable {evaluate : Evaluation} {document : OrderTimelineDocument}
variable {envelope : FactEnvelope} {facts : List FactEnvelope}

theorem deliverFact_of_held
    (held : dedupKeyOf envelope.eventId ∈ document.processedEventKeys) :
    deliverFact evaluate document envelope = (document, none) := by
  rw [deliverFact, findOneAndUpdate, if_pos held]

/-- A fact that is new to a document is applied and announced. -/
theorem deliverFact_of_fresh (evaluate : Evaluation)
    (fresh : dedupKeyOf envelope.eventId ∉ document.processedEventKeys) :
    ∃ signal,
      deliverFact evaluate document envelope =
        (applyFact evaluate document envelope, some signal) := by
  have present : (applyFact evaluate document envelope).events ≠ [] := by
    intro empty
    have eventIds := (eventIds_applyFact evaluate document envelope).length_eq
    rw [empty] at eventIds
    simp at eventIds
  have last := List.getLast?_eq_some_getLast present
  rw [deliverFact, findOneAndUpdate, if_neg fresh]
  simp only [toAppliedOrderTimeline, last, Option.map_some]
  exact ⟨_, rfl⟩

/-- Every signal carries the data of the fact whose delivery published it. -/
def CarriesAll (evaluate : Evaluation) :
    OrderTimelineDocument → List FactEnvelope → Prop
  | _, [] => True
  | document, envelope :: rest =>
      (∀ signal, (deliverFact evaluate document envelope).2 = some signal →
        signal.Carries envelope) ∧
        CarriesAll evaluate (deliverFact evaluate document envelope).1 rest

/-- Every fact that is new to the document at its delivery sorts last there. -/
def ArrivesInOrder (evaluate : Evaluation) :
    OrderTimelineDocument → List FactEnvelope → Prop
  | _, [] => True
  | document, envelope :: rest =>
      (dedupKeyOf envelope.eventId ∉ document.processedEventKeys →
        SortsLast document envelope) ∧
        ArrivesInOrder evaluate (deliverFact evaluate document envelope).1 rest

theorem stored_deliverFact (stored : Stored document) :
    Stored (deliverFact evaluate document envelope).1 := by
  by_cases held : dedupKeyOf envelope.eventId ∈ document.processedEventKeys
  · rw [deliverFact_of_held held]
    exact stored
  · rcases deliverFact_of_fresh evaluate held with ⟨signal, delivered⟩
    rw [delivered]
    exact stored.applyFact evaluate held

theorem carriesAll_iff (stored : Stored document) :
    CarriesAll evaluate document facts ↔ ArrivesInOrder evaluate document facts := by
  induction facts generalizing document with
  | nil => exact Iff.rfl
  | cons envelope rest inductionHypothesis =>
      rw [CarriesAll, ArrivesInOrder, inductionHypothesis (stored_deliverFact stored)]
      apply and_congr_left
      intro _
      constructor
      · intro carries fresh
        rcases deliverFact_of_fresh evaluate fresh with ⟨signal, delivered⟩
        have published := congrArg Prod.snd delivered
        exact (carries_iff_sortsLast stored published).mp (carries signal published)
      · intro sortsLast signal published
        have fresh := (deliverFact_eq_some published).1
        exact (carries_iff_sortsLast stored published).mpr (sortsLast fresh)

/-- Signals that carry their facts name the entries that were added. -/
theorem eventIds_deliverFacts (carries : CarriesAll evaluate document facts) :
    ((deliverFacts evaluate document facts).1.events.map TimelineEntry.eventId).Perm
        (document.events.map TimelineEntry.eventId ++
          (deliverFacts evaluate document facts).2.map
            fun signal => signal.timelineEntry.eventId) ∧
      (deliverFacts evaluate document facts).2.map
          (fun signal => signal.orderUpdate.eventId) =
        (deliverFacts evaluate document facts).2.map
          fun signal => signal.timelineEntry.eventId := by
  induction facts generalizing document with
  | nil => simp [deliverFacts]
  | cons envelope rest inductionHypothesis =>
      rw [CarriesAll] at carries
      rcases inductionHypothesis carries.2 with ⟨eventIds, updateIds⟩
      simp only [deliverFacts, List.map_append]
      by_cases held : dedupKeyOf envelope.eventId ∈ document.processedEventKeys
      · rw [deliverFact_of_held held] at eventIds updateIds ⊢
        exact ⟨eventIds, updateIds⟩
      · rcases deliverFact_of_fresh evaluate held with ⟨signal, delivered⟩
        have own := carries.1 signal (congrArg Prod.snd delivered)
        rw [delivered] at eventIds updateIds ⊢
        simp only [Option.toList_some, List.map_cons, List.map_nil, own.eventId,
          own.updateEventId, updateIds, and_true]
        apply eventIds.trans
        rw [← List.append_assoc]
        exact (eventIds_applyFact evaluate document envelope).append_right _

theorem stored_deliverFacts (stored : Stored document) :
    Stored (deliverFacts evaluate document facts).1 := by
  induction facts generalizing document with
  | nil => exact stored
  | cons envelope rest inductionHypothesis =>
      exact inductionHypothesis (stored_deliverFact stored)

end Deliveries

/-- The signals of the deliveries announce the facts that were applied: each
carries its own fact, a client that knows the document's entries drops none of
them, and with those entries they cover the timeline. -/
def Announces (evaluate : Evaluation) (document : OrderTimelineDocument)
    (facts : List FactEnvelope) : Prop :=
  CarriesAll evaluate document facts ∧
    (∀ giveUpAfterConsecutiveErrors,
      ((OrderStreamClient.create giveUpAfterConsecutiveErrors).seedSeenEventIds
        (document.events.map TimelineEntry.eventId)).PassesOn
        (deliverFacts evaluate document facts).2) ∧
    ∀ entry ∈ (deliverFacts evaluate document facts).1.events,
      entry.eventId ∈ document.events.map TimelineEntry.eventId ∨
        entry.eventId ∈
          (deliverFacts evaluate document facts).2.map
            fun signal => signal.timelineEntry.eventId

/-- The live signal announces what is applied exactly where every fact that is
applied comes last in the causal order. -/
theorem announces_iff {evaluate : Evaluation} {document : OrderTimelineDocument}
    (facts : List FactEnvelope) (stored : Stored document) :
    Announces evaluate document facts ↔ ArrivesInOrder evaluate document facts := by
  constructor
  · rintro ⟨carries, -⟩
    exact (carriesAll_iff stored).mp carries
  · intro inOrder
    have carries := (carriesAll_iff stored).mpr inOrder
    rcases eventIds_deliverFacts carries with ⟨eventIds, updateIds⟩
    have distinct : (document.events.map TimelineEntry.eventId ++
        (deliverFacts evaluate document facts).2.map
          fun signal => signal.timelineEntry.eventId).Nodup :=
      eventIds.nodup_iff.mp (stored_deliverFacts stored).distinct
    rw [List.nodup_append] at distinct
    rcases distinct with ⟨-, entryIds, apart⟩
    have newEntries : ∀ signal ∈ (deliverFacts evaluate document facts).2,
        signal.timelineEntry.eventId ∉ document.events.map TimelineEntry.eventId := by
      intro signal signalMem known
      exact apart _ known _ (List.mem_map_of_mem signalMem) rfl
    have newUpdates : ∀ signal ∈ (deliverFacts evaluate document facts).2,
        signal.orderUpdate.eventId ∉ document.events.map TimelineEntry.eventId := by
      intro signal signalMem known
      have moved : signal.orderUpdate.eventId ∈
          (deliverFacts evaluate document facts).2.map
            fun signal => signal.timelineEntry.eventId := by
        rw [← updateIds]
        exact List.mem_map_of_mem signalMem
      exact apart _ known _ moved rfl
    apply And.intro carries
    constructor
    · intro giveUpAfterConsecutiveErrors
      apply OrderStreamClient.passesOn_of_new
      · rw [updateIds]
        exact entryIds
      · simpa [OrderStreamClient.seedSeenEventIds, OrderStreamClient.create] using
          newUpdates
      · exact entryIds
      · simpa [OrderStreamClient.seedSeenEventIds, OrderStreamClient.create] using
          newEntries
    · intro entry entryMem
      have eventId := eventIds.mem_iff.mp (List.mem_map_of_mem entryMem)
      exact List.mem_append.mp eventId

/-! ## A late fact -/

/-- No text is a path. -/
def verbatim : Evaluation := fun _ text => text

/-- The placeholder of an order. -/
def emptyDocument : OrderTimelineDocument :=
  placeholderSkeleton ⟨1⟩ "2026-08-24T10:00:00.000Z"

theorem emptyDocument_stored : Stored emptyDocument where
  distinct := List.nodup_nil
  held _ entryMem := absurd entryMem List.not_mem_nil

theorem paid_in_turn_announces :
    Announces verbatim emptyDocument (ProjectorSystem.paidFacts "PAY-1") := by
  apply (announces_iff _ emptyDocument_stored).mpr
  constructor
  · decide +kernel
  · constructor
    · decide +kernel
    · trivial

/-- The reservation is delivered after the payment: its frames carry the payment
once more. -/
theorem late_fact_not_announced :
    ¬∀ (evaluate : Evaluation) (document : OrderTimelineDocument)
        (facts : List FactEnvelope),
        Stored document → Announces evaluate document facts := by
  intro always
  have carries := (always verbatim emptyDocument
    [ProjectorSystem.paymentFact "PAY-1", ProjectorSystem.reservedFact]
    emptyDocument_stored).1.2.1
  have announced :
      ((deliverFact verbatim
          (deliverFact verbatim emptyDocument (ProjectorSystem.paymentFact "PAY-1")).1
          ProjectorSystem.reservedFact).2.map
        fun signal => signal.timelineEntry.eventId) =
        some (ProjectorSystem.paymentFact "PAY-1").eventId := by
    decide +kernel
  rcases Option.map_eq_some_iff.mp announced with ⟨signal, published, eventId⟩
  have own := (carries signal published).eventId
  rw [eventId] at own
  revert own
  decide

end OrderToCash.Web
