import OrderToCash.Projector.Determinism

/-!
# The status a document ends in

A document's status is the one proved by the highest ranked of the facts applied
to it, whatever the database makes of their texts, and its cancellation reason is
that of a cancellation among them.
-/

namespace OrderToCash.Projector

open OrderToCash.Contracts
open OrderToCash.Kernel
open OrderToCash.Orders
open OrderToCash.Transition

/-- A fact that proves a status has a rank. -/
theorem rankOf_pos {eventType : EventType} {status : OrderStatus}
    (proves : impliedStatusOf eventType = some status) : 0 < rankOf eventType := by
  cases eventType <;> first | contradiction | decide

namespace ProjectorSystem

/-- What a document shows of the facts it holds. -/
structure Ranked (facts : List FactEnvelope) (document : OrderTimelineDocument) :
    Prop where
  proved : document.statusRank = 0 ∨ ∃ envelope ∈ facts,
    impliedStatusOf envelope.eventType = some document.status ∧
      rankOf envelope.eventType = document.statusRank
  highest : ∀ envelope ∈ facts,
    dedupKeyOf envelope.eventId ∈ document.processedEventKeys →
      rankOf envelope.eventType ≤ document.statusRank
  reason : ∀ reason, document.cancellationReason = some reason →
    ∃ envelope ∈ facts, (fillOf envelope.fact).cancellationReason = some reason
  filled : ∀ envelope ∈ facts,
    dedupKeyOf envelope.eventId ∈ document.processedEventKeys →
      document.cancellationReason = none →
        (fillOf envelope.fact).cancellationReason = none

variable {facts : List FactEnvelope} {evaluate : Evaluation} {system : ProjectorSystem}

theorem Ranked.placeholder (orderId : OrderNumber) (seedOccurredAt : String) :
    Ranked facts (placeholderSkeleton orderId seedOccurredAt) := by
  constructor <;> simp [placeholderSkeleton]

/-- A fact whose key is held after an update is the fact applied, or its key was
held before. -/
theorem held_applyFact (distinct : (facts.map FactEnvelope.eventId).Nodup)
    {document : OrderTimelineDocument} {envelope other : FactEnvelope}
    (known : envelope ∈ facts) (otherMem : other ∈ facts)
    (held : dedupKeyOf other.eventId ∈
      (applyFact evaluate document envelope).processedEventKeys) :
    dedupKeyOf other.eventId ∈ document.processedEventKeys ∨ other = envelope := by
  rw [processedEventKeys_applyFact, mem_unionKey, dedupKeyOf_inj] at held
  rcases held with before | same
  · exact Or.inl before
  · exact Or.inr (List.inj_on_of_nodup_map distinct otherMem known same)

theorem Ranked.applyFact (distinct : (facts.map FactEnvelope.eventId).Nodup)
    {document : OrderTimelineDocument} (ranked : Ranked facts document)
    {envelope : FactEnvelope} (known : envelope ∈ facts) :
    Ranked facts (applyFact evaluate document envelope) where
  proved := by
    rw [status_applyFact, statusRank_applyFact]
    cases proves : impliedStatusOf envelope.eventType with
    | none =>
        rw [rankOf_eq_zero_of_impliedStatusOf proves, Nat.max_zero]
        exact ranked.proved
    | some status =>
        by_cases below : document.statusRank < rankOf envelope.eventType
        · refine Or.inr ⟨envelope, known, ?_, ?_⟩
          · rw [raise, if_pos below]
            exact proves
          · omega
        · have kept : max document.statusRank (rankOf envelope.eventType) =
              document.statusRank := by
            omega
          rw [raise, if_neg below, kept]
          exact ranked.proved
  highest other otherMem held := by
    rw [statusRank_applyFact]
    rcases held_applyFact distinct known otherMem held with before | rfl
    · exact Nat.le_trans (ranked.highest other otherMem before) (Nat.le_max_left _ _)
    · exact Nat.le_max_right _ _
  reason reason filled := by
    rw [cancellationReason_applyFact, Option.or_eq_some_iff] at filled
    rcases filled with before | ⟨_, new⟩
    · exact ranked.reason reason before
    · exact ⟨envelope, known, new⟩
  filled other otherMem held absent := by
    rw [cancellationReason_applyFact, Option.or_eq_none_iff] at absent
    rcases held_applyFact distinct known otherMem held with before | rfl
    · exact ranked.filled other otherMem before absent.1
    · exact absent.2

/-- Where every fact was brought to its end, the document has the status that the
highest of them proves, and the reason that those with a reason give. -/
theorem document_of_complete (distinct : (facts.map FactEnvelope.eventId).Nodup)
    (reached : Reachable (step evaluate) (Delivers facts) initial system)
    (complete : Complete facts system) {top : FactEnvelope} (topMem : top ∈ facts)
    {status : OrderStatus} (proves : impliedStatusOf top.eventType = some status)
    (highest : ∀ envelope ∈ facts,
      rankOf envelope.eventType ≤ rankOf top.eventType)
    {reason : Option CancellationReason}
    (reasons : ∀ given, reason = some given ↔ ∃ envelope ∈ facts,
      (fillOf envelope.fact).cancellationReason = some given) :
    ∃ document, system.document = some document ∧ document.status = status ∧
      document.cancellationReason = reason := by
  have keeps := @keeps_of_reachable facts (Ranked facts) system evaluate
    (fun envelope _ => .placeholder envelope.correlationId envelope.occurredAt)
    (fun envelope known document ranked _ => ranked.applyFact distinct known) reached
  rcases complete top topMem with ⟨call, callMem, _, returned⟩
  rcases keeps.returned call callMem returned with ⟨document, stored, _⟩
  have ranked := keeps.document document stored
  have held := keeps.held_of_complete complete stored
  have reachesTop := ranked.highest top topMem (held top topMem)
  refine ⟨document, stored, ?_, ?_⟩
  · rcases ranked.proved with unranked | ⟨envelope, known, isProved, isRank⟩
    · have positive := rankOf_pos proves
      omega
    · have same : rankOf envelope.eventType = rankOf top.eventType := by
        have below := highest envelope known
        omega
      have statuses := impliedStatusOf_eq_of_rankOf_eq same
      rw [isProved, proves, Option.some.injEq] at statuses
      exact statuses
  · cases filled : document.cancellationReason with
    | some given => exact ((reasons given).mpr (ranked.reason given filled)).symm
    | none =>
        cases isReason : reason with
        | none => rfl
        | some given =>
            rcases (reasons given).mp isReason with ⟨envelope, known, gives⟩
            rw [ranked.filled envelope known (held envelope known) filled] at gives
            cases gives

end ProjectorSystem

end OrderToCash.Projector
