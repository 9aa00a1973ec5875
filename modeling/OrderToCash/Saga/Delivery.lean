import OrderToCash.Log.Inbox
import OrderToCash.Saga.OrderSaga
import OrderToCash.Saga.System

/-!
# The facts of an order on their way

Each topic is an inbox of Orders: its log is the outbox of the service that
emits on it, and what is consumed of it are the processed events.
-/

namespace OrderToCash.Saga

open OrderToCash.Contracts
open OrderToCash.Kernel
open OrderToCash.Log
open OrderToCash.Orders

/-- How Orders reads the facts of one order. -/
def sagaReading (order : OrderNumber) : Reading Fact SagaFact :=
  { read := fun fact => if fact.orderReference = order then sagaFact? fact else none
    repeatable := Repeatable
    precedes := Precedes }

theorem read_eq_some {order : OrderNumber} {fact : Fact} {sagaFact : SagaFact} :
    (sagaReading order).read fact = some sagaFact ↔
      fact.orderReference = order ∧ sagaFact? fact = some sagaFact := by
  simp [sagaReading]

/-- The saga facts of the order are those of its facts. -/
theorem filterMap_read (order : OrderNumber) (facts : List Fact) :
    facts.filterMap (sagaReading order).read =
      (facts.filter (·.orderReference = order)).filterMap sagaFact? := by
  rw [List.filterMap_filter]
  simp [sagaReading]

/-- What the order has pending and what Orders has handled of it. -/
def Delivery (order : OrderNumber) (outbox : Topic → List Fact)
    (processed : List EventId) (pending handled : SagaFact → Prop) : Prop :=
  ∀ topic, Inbox (sagaReading order) (fun fact => fact.topic = topic) (outbox topic)
    (fun position => (⟨topic, position⟩ : EventId) ∈ processed) pending handled

namespace Delivery

variable {order : OrderNumber} {outbox outbox' : Topic → List Fact}
  {processed : List EventId} {pending handled : SagaFact → Prop}

/-- Nothing is on its way at first. -/
theorem nil (order : OrderNumber) (empty : ∀ topic, outbox topic = []) :
    Delivery order outbox [] (fun _ => False) fun _ => False := by
  intro topic
  have none : (fun position => (⟨topic, position⟩ : EventId) ∈ ([] : List EventId)) =
      fun _ => False := by
    funext position
    simp
  rw [none, empty]
  exact Inbox.nil

/-- Facts appended to one topic are pending. -/
theorem emit (delivery : Delivery order outbox processed pending handled)
    {topic : Topic} {new : List Fact} (grown : outbox' topic = outbox topic ++ new)
    (others : ∀ other, other ≠ topic → outbox' other = outbox other)
    (mayLog : MayLog (sagaReading order) (fun fact => fact.topic = topic) handled
      pending (new.filterMap (sagaReading order).read))
    {pending' : SagaFact → Prop}
    (same : ∀ fact, pending' fact ↔
      fact ∈ new.filterMap (sagaReading order).read ∨ pending fact)
    (ofTopic : ∀ fact ∈ new.filterMap (sagaReading order).read, fact.topic = topic) :
    Delivery order outbox' processed pending' handled := by
  intro other
  by_cases here : other = topic
  · subst here
    rw [grown]
    exact ((delivery other).append mayLog).congr (fun fact _ => same fact)
      fun fact _ => Iff.rfl
  · rw [others other here]
    apply (delivery other).congr
    · intro fact ofOther
      rw [same fact]
      constructor
      · rintro (new | old)
        · exact absurd (ofOther.symm.trans (ofTopic fact new)) here
        · exact old
      · exact Or.inr
    · exact fun fact _ => Iff.rfl

/-- Facts that are not the saga's, or not the order's, change nothing. -/
theorem unread (delivery : Delivery order outbox processed pending handled)
    {topic : Topic} {new : List Fact} (grown : outbox' topic = outbox topic ++ new)
    (others : ∀ other, other ≠ topic → outbox' other = outbox other)
    (none : new.filterMap (sagaReading order).read = []) :
    Delivery order outbox' processed pending handled := by
  apply delivery.emit grown others
  · rw [none]
    trivial
  · simp [none]
  · simp [none]

/-- A fact of another order, or one the saga skips, is processed. -/
theorem process_unread (delivery : Delivery order outbox processed pending handled)
    {envelope : Envelope}
    (published : (outbox envelope.eventId.topic)[envelope.eventId.position]? =
      some envelope.fact)
    (none : (sagaReading order).read envelope.fact = none) :
    Delivery order outbox (envelope.eventId :: processed) pending handled := by
  intro topic
  apply (delivery topic).consume_unread
  · rintro fact position ⟨entry, found, reads⟩
    rw [List.mem_cons]
    constructor
    · rintro (isEvent | before)
      · rw [← isEvent] at published
        change (outbox topic)[position]? = _ at published
        rw [published, Option.some.injEq] at found
        rw [found, reads] at none
        cases none
      · exact before
    · exact Or.inr
  · intro position isProcessed
    rcases List.mem_cons.mp isProcessed with isEvent | before
    · rw [← isEvent] at published
      exact (List.getElem?_eq_some_iff.mp published).1
    · exact (delivery topic).bounded position before

/-- A pending fact is processed. -/
theorem process (delivery : Delivery order outbox processed pending handled)
    {envelope : Envelope} {fact : SagaFact}
    (published : (outbox envelope.eventId.topic)[envelope.eventId.position]? =
      some envelope.fact)
    (reads : (sagaReading order).read envelope.fact = some fact) :
    ∃ rest : Prop, (rest → Repeatable fact) ∧
      Delivery order outbox (envelope.eventId :: processed)
        (fun other => pending other ∧ (other = fact → rest))
        (fun other => other = fact ∨ handled other) := by
  have isAt : (sagaReading order).At (outbox envelope.eventId.topic) fact
      envelope.eventId.position := ⟨envelope.fact, published, reads⟩
  have ofTopic := (delivery envelope.eventId.topic).owned fact _ isAt
  rcases (delivery envelope.eventId.topic).consume isAt with ⟨rest, again, inbox⟩
  refine ⟨rest, again, fun topic => ?_⟩
  by_cases here : topic = envelope.eventId.topic
  · subst here
    have same : (fun position =>
        (⟨envelope.eventId.topic, position⟩ : EventId) ∈
          envelope.eventId :: processed) =
        fun position => position = envelope.eventId.position ∨
          (⟨envelope.eventId.topic, position⟩ : EventId) ∈ processed := by
      funext position
      rw [List.mem_cons, EventId.mk.injEq]
      simp
    rw [same]
    exact inbox
  · have unchanged : (fun position =>
        (⟨topic, position⟩ : EventId) ∈ envelope.eventId :: processed) =
        fun position => (⟨topic, position⟩ : EventId) ∈ processed := by
      funext position
      rw [List.mem_cons]
      apply propext
      constructor
      · rintro (isEvent | before)
        · exact absurd (congrArg EventId.topic isEvent) here
        · exact before
      · exact Or.inr
    rw [unchanged]
    have differs : ∀ other : SagaFact, other.topic = topic → other ≠ fact := by
      rintro other ofOther rfl
      exact here (ofOther.symm.trans ofTopic)
    apply (delivery topic).congr
    · intro other ofOther
      simp [differs other ofOther]
    · intro other ofOther
      simp [differs other ofOther]

/-- A published fact that is not processed is pending. -/
theorem pending_of_published
    (delivery : Delivery order outbox processed pending handled)
    {envelope : Envelope} {fact : SagaFact}
    (published : (outbox envelope.eventId.topic)[envelope.eventId.position]? =
      some envelope.fact)
    (reads : (sagaReading order).read envelope.fact = some fact)
    (fresh : envelope.eventId ∉ processed) : pending fact := by
  have isAt : (sagaReading order).At (outbox envelope.eventId.topic) fact
      envelope.eventId.position := ⟨envelope.fact, published, reads⟩
  have ofTopic := (delivery envelope.eventId.topic).owned fact _ isAt
  exact ((delivery envelope.eventId.topic).waiting_iff fact ofTopic).mpr
    ⟨envelope.eventId.position, isAt, fresh⟩

/-- A processed fact is handled. -/
theorem handled_of_processed
    (delivery : Delivery order outbox processed pending handled)
    {envelope : Envelope} {fact : SagaFact}
    (published : (outbox envelope.eventId.topic)[envelope.eventId.position]? =
      some envelope.fact)
    (reads : (sagaReading order).read envelope.fact = some fact)
    (isProcessed : envelope.eventId ∈ processed) : handled fact := by
  have isAt : (sagaReading order).At (outbox envelope.eventId.topic) fact
      envelope.eventId.position := ⟨envelope.fact, published, reads⟩
  have ofTopic := (delivery envelope.eventId.topic).owned fact _ isAt
  exact ((delivery envelope.eventId.topic).done_iff fact ofTopic).mpr
    ⟨envelope.eventId.position, isAt, isProcessed⟩

/-- A fact is pending or handled once it is in its outbox. -/
theorem emitted_iff (delivery : Delivery order outbox processed pending handled)
    (fact : SagaFact) :
    pending fact ∨ handled fact ↔
      ∃ entry ∈ outbox fact.topic, (sagaReading order).read entry = some fact := by
  have waiting := (delivery fact.topic).waiting_iff fact rfl
  have done := (delivery fact.topic).done_iff fact rfl
  constructor
  · rintro (waits | isDone)
    · rcases waiting.mp waits with ⟨position, ⟨entry, found, reads⟩, _⟩
      exact ⟨entry, List.mem_of_getElem? found, reads⟩
    · rcases done.mp isDone with ⟨position, ⟨entry, found, reads⟩, _⟩
      exact ⟨entry, List.mem_of_getElem? found, reads⟩
  · rintro ⟨entry, entryMem, reads⟩
    rcases List.getElem?_of_mem entryMem with ⟨position, found⟩
    by_cases isProcessed : (⟨fact.topic, position⟩ : EventId) ∈ processed
    · exact Or.inr (done.mpr ⟨position, ⟨entry, found, reads⟩, isProcessed⟩)
    · exact Or.inl (waiting.mpr ⟨position, ⟨entry, found, reads⟩, isProcessed⟩)

end Delivery

end OrderToCash.Saga
