import OrderToCash.Causal.Acyclic
import OrderToCash.Projector.Confluence

/-!
# The timeline order and its migration

Every update sorts the whole timeline of its document, and the migration at boot
sorts the timelines that an earlier order left.  Both evaluate one expression,
which depends on the entries alone: on their causes where these form no cycle,
and on the rounds that were counted where they do.
-/

namespace OrderToCash.Projector

open OrderToCash.Causal
open OrderToCash.Kernel

/-! ## Causes come first -/

/-- Causes that stand lower, in whatever measure, form no cycle. -/
theorem acyclic_of_height {entries : List TimelineEntry} (height : TimelineEntry → Nat)
    (below : ∀ effect ∈ entries, ∀ cause ∈ entries,
      effect.causationId = some cause.eventId →
        cause.occurredAt = effect.occurredAt → height cause < height effect) :
    timelineKeys.Acyclic entries := by
  have descends : ∀ {effect cause : TimelineEntry}, effect ∈ entries →
      Relation.TransGen (timelineKeys.CausedBy entries) effect cause →
        cause ∈ entries ∧ height cause < height effect := by
    intro effect cause effectMem above
    induction above with
    | single causedBy =>
        exact ⟨causedBy.1, below effect effectMem _ causedBy.1 causedBy.2.1
          causedBy.2.2⟩
    | tail _ causedBy inductionHypothesis =>
        have lower := below _ inductionHypothesis.1 _ causedBy.1 causedBy.2.1
          causedBy.2.2
        exact ⟨causedBy.1, lower.trans inductionHypothesis.2⟩
  intro entry entryMem cycle
  exact absurd (descends entryMem cycle).2 (lt_irrefl _)

/-- Where the causes within each instant form no cycle, the timeline ascends in
time and every cause that is not later than its effect comes before it. -/
theorem causalTimelineOrder_respects_causes {entries : List TimelineEntry}
    (distinct : DistinctEvents entries) (acyclic : timelineKeys.Acyclic entries) :
    (causalTimelineOrder entries).Perm (entries.map TimelineEntry.withoutRank) ∧
      ((causalTimelineOrder entries).Pairwise fun first second =>
        first.occurredAt ≤ second.occurredAt) ∧
      ∀ cause ∈ causalTimelineOrder entries, ∀ effect ∈ causalTimelineOrder entries,
        effect.causationId = some cause.eventId →
          cause.occurredAt ≤ effect.occurredAt →
            [cause, effect].Sublist (causalTimelineOrder entries) := by
  refine ⟨causalTimelineOrder_perm entries, ?_, ?_⟩
  · rw [causalTimelineOrder_eq]
    apply (timelineKeys.pairwise_causalOrder _).imp
    intro first second
    exact timelineKeys.occurredAt_le_of_atMost _
  · intro cause causeMem effect effectMem named notLater
    rcases List.mem_map.mp causeMem with ⟨storedCause, storedCauseMem, rfl⟩
    rcases List.mem_map.mp effectMem with ⟨storedEffect, storedEffectMem, rfl⟩
    have inOrder := acyclic.sublist_causalOrder distinct
      (timelineKeys.mem_causalOrder.mp storedCauseMem)
      (timelineKeys.mem_causalOrder.mp storedEffectMem) named notLater
    exact inOrder.map TimelineEntry.withoutRank

/-- An entry of a fact that carries neither a detail nor a figure. -/
def plainEntry (eventId : String) (causationId : String) (occurredAt : String) :
    TimelineEntry :=
  { eventId := eventId
    eventType := .orderConfirmed
    occurredAt := occurredAt
    summary := .orderConfirmed
    causationId := some causationId
    detail := none
    statusRank := none }

/-- A chain of three of one instant whose identities run against their causes. -/
def completionTriple : List TimelineEntry :=
  [ plainEntry "0" "8" "2026-08-24T16:00:05.000Z",
    plainEntry "f" "command" "2026-08-24T16:00:05.000Z",
    plainEntry "8" "f" "2026-08-24T16:00:05.000Z" ]

theorem completionTriple_respects_causes :
    (causalTimelineOrder completionTriple).Perm
        (completionTriple.map TimelineEntry.withoutRank) ∧
      ((causalTimelineOrder completionTriple).Pairwise fun first second =>
        first.occurredAt ≤ second.occurredAt) ∧
      ∀ cause ∈ causalTimelineOrder completionTriple,
        ∀ effect ∈ causalTimelineOrder completionTriple,
          effect.causationId = some cause.eventId →
            cause.occurredAt ≤ effect.occurredAt →
              [cause, effect].Sublist (causalTimelineOrder completionTriple) := by
  apply causalTimelineOrder_respects_causes
  · unfold DistinctEvents
    decide
  · apply acyclic_of_height fun entry =>
      if entry.eventId = "f" then 0 else if entry.eventId = "8" then 1 else 2
    decide

/-! ## Live updates -/

/-- Updates of a document, one after the other, each with its dedup key. -/
def projectAll (evaluate : Evaluation) (document : OrderTimelineDocument) :
    List (ProjectionDelta × String) → OrderTimelineDocument
  | [] => document
  | update :: rest =>
      projectAll evaluate (deltaToPipeline evaluate update.1 update.2 document) rest

/-- The entries the updates append, as the database evaluates them. -/
def appendedEntries (evaluate : Evaluation) (document : OrderTimelineDocument) :
    List (ProjectionDelta × String) → List TimelineEntry
  | [] => []
  | update :: rest =>
      (update.1.mapTexts (evaluate document)).entry ::
        appendedEntries evaluate
          (deltaToPipeline evaluate update.1 update.2 document) rest

/-- Updates leave the timeline of all their entries, by induction on them. -/
theorem events_projectAll {evaluate : Evaluation} {document : OrderTimelineDocument}
    {updates : List (ProjectionDelta × String)}
    (ordered : causalTimelineOrder document.events = document.events)
    (distinct : DistinctEvents
      (document.events ++ appendedEntries evaluate document updates)) :
    (projectAll evaluate document updates).events =
      causalTimelineOrder
        (document.events ++ appendedEntries evaluate document updates) := by
  induction updates generalizing document with
  | nil =>
      rw [appendedEntries, List.append_nil]
      exact ordered.symm
  | cons update rest inductionHypothesis =>
      have events := events_deltaToPipeline evaluate update.1 update.2 document
      have inTurn : document.events ++ appendedEntries evaluate document
            (update :: rest) =
          document.events ++ [(update.1.mapTexts (evaluate document)).entry] ++
            appendedEntries evaluate
              (deltaToPipeline evaluate update.1 update.2 document) rest := by
        rw [appendedEntries, List.append_assoc]
        rfl
      rw [inTurn] at distinct ⊢
      have distinctBefore : DistinctEvents
          (document.events ++ [(update.1.mapTexts (evaluate document)).entry]) := by
        unfold DistinctEvents at distinct ⊢
        rw [List.map_append] at distinct
        exact (List.nodup_append.mp distinct).1
      rw [projectAll, inductionHypothesis]
      · rw [events]
        exact causalTimelineOrder_append distinct
      · rw [events]
        exact causalTimelineOrder_causalTimelineOrder distinctBefore
      · unfold DistinctEvents at distinct ⊢
        rw [events, List.map_append]
        rw [List.map_append] at distinct
        exact (((eventIds_causalTimelineOrder _).append_right _).nodup_iff).mpr
          distinct

/-! ## The migration at boot -/

structure TimelineOrderMigrationResult where
  migrated : Nat
  stillEdgeless : Nat
deriving DecidableEq, Repr

/-- The version a document carries is not the current one, or it carries none. -/
def VersionMismatch (document : OrderTimelineDocument) : Prop :=
  document.timelineOrderVersion ≠ some timelineOrderVersion

instance (document : OrderTimelineDocument) : Decidable (VersionMismatch document) :=
  inferInstanceAs (Decidable (_ ≠ _))

def resort (document : OrderTimelineDocument) : OrderTimelineDocument :=
  { document with
    events := causalTimelineOrder document.events
    timelineOrderVersion := some timelineOrderVersion }

/-- Some entry of the document names no cause. -/
def edgeless (document : OrderTimelineDocument) : Bool :=
  document.events.any fun entry => entry.causationId = none

/-- Sorts every document of another version; what still lacks causes is counted
before the update. -/
def migrateTimelineOrder (collection : List OrderTimelineDocument) :
    List OrderTimelineDocument × TimelineOrderMigrationResult :=
  match collection.filter fun document => VersionMismatch document with
  | [] => (collection, ⟨0, 0⟩)
  | candidate :: candidates =>
      (collection.map fun document =>
          if VersionMismatch document then resort document else document,
        { migrated := (candidate :: candidates).length
          stillEdgeless := ((candidate :: candidates).filter edgeless).length })

theorem not_versionMismatch_resort (document : OrderTimelineDocument) :
    ¬ VersionMismatch (resort document) :=
  fun mismatch => mismatch rfl

theorem migrateTimelineOrder_of_current {collection : List OrderTimelineDocument}
    (current : ∀ document ∈ collection, ¬ VersionMismatch document) :
    migrateTimelineOrder collection = (collection, ⟨0, 0⟩) := by
  have noCandidates : (collection.filter fun document =>
      decide (VersionMismatch document)) = [] := by
    rw [List.filter_eq_nil_iff]
    intro document stored selected
    exact current document stored (of_decide_eq_true selected)
  unfold migrateTimelineOrder
  rw [noCandidates]

/-- The migration sorts exactly the documents of another version. -/
theorem migrateTimelineOrder_fst (collection : List OrderTimelineDocument) :
    (migrateTimelineOrder collection).1 =
      collection.map fun document =>
        if VersionMismatch document then resort document else document := by
  unfold migrateTimelineOrder
  split
  · rename_i noCandidates
    rw [List.filter_eq_nil_iff] at noCandidates
    have unchanged : ∀ document ∈ collection,
        (if VersionMismatch document then resort document else document) =
          document := by
      intro document stored
      exact if_neg fun mismatch =>
        noCandidates document stored (decide_eq_true mismatch)
    rw [List.map_congr_left unchanged, List.map_id']
  · rfl

/-- A migrated collection has nothing left to migrate. -/
theorem migrateTimelineOrder_again (collection : List OrderTimelineDocument) :
    migrateTimelineOrder (migrateTimelineOrder collection).1 =
      ((migrateTimelineOrder collection).1, ⟨0, 0⟩) := by
  apply migrateTimelineOrder_of_current
  intro document stored
  rw [migrateTimelineOrder_fst] at stored
  rcases List.mem_map.mp stored with ⟨before, _, rfl⟩
  by_cases mismatch : VersionMismatch before
  · rw [if_pos mismatch]
    exact not_versionMismatch_resort before
  · rw [if_neg mismatch]
    exact mismatch

/-- The migration of a document gives the timeline that its entries, projected
live in any order, would have left. -/
theorem events_resort_eq_projectAll {entries : List TimelineEntry}
    (distinct : DistinctEvents entries) {document : OrderTimelineDocument}
    (stored : entries.Perm document.events) {evaluate : Evaluation}
    {orderId : OrderNumber} {seedOccurredAt : String}
    {updates : List (ProjectionDelta × String)}
    (same : (appendedEntries evaluate (placeholderSkeleton orderId seedOccurredAt)
      updates).Perm (entries.map TimelineEntry.withoutRank)) :
    (resort document).events =
      (projectAll evaluate (placeholderSkeleton orderId seedOccurredAt)
        updates).events := by
  have withoutRank_ids : (entries.map TimelineEntry.withoutRank).map
      TimelineEntry.eventId = entries.map TimelineEntry.eventId := List.map_map
  have distinctAppended : DistinctEvents (appendedEntries evaluate
      (placeholderSkeleton orderId seedOccurredAt) updates) := by
    apply ((same.map TimelineEntry.eventId).nodup_iff).mpr
    rw [withoutRank_ids]
    exact distinct
  have live := @events_projectAll evaluate
    (placeholderSkeleton orderId seedOccurredAt) updates rfl distinctAppended
  rw [live]
  calc
    causalTimelineOrder document.events = causalTimelineOrder entries :=
      (causalTimelineOrder_eq_of_perm distinct stored).symm
    _ = causalTimelineOrder (entries.map TimelineEntry.withoutRank) := by
      rw [causalTimelineOrder_eq, causalTimelineOrder_eq, List.map_map]
      rfl
    _ = causalTimelineOrder (appendedEntries evaluate
          (placeholderSkeleton orderId seedOccurredAt) updates) :=
      (causalTimelineOrder_eq_of_perm distinctAppended same).symm

/-- Whatever the causes, cycles included, the timeline order rearranges the
entries, depends on them alone and is final; so the migration agrees with live
projection and has nothing to do a second time. -/
theorem causalTimelineOrder_canonical {entries : List TimelineEntry}
    (distinct : DistinctEvents entries) :
    (causalTimelineOrder entries).Perm (entries.map TimelineEntry.withoutRank) ∧
      (∀ arranged : List TimelineEntry, entries.Perm arranged →
        causalTimelineOrder arranged = causalTimelineOrder entries) ∧
      causalTimelineOrder (causalTimelineOrder entries) =
        causalTimelineOrder entries ∧
      (∀ (collection : List OrderTimelineDocument) (index : Nat)
          (document : OrderTimelineDocument),
        collection[index]? = some document → VersionMismatch document →
        entries.Perm document.events →
        ∀ (evaluate : Evaluation) (orderId : OrderNumber) (seedOccurredAt : String)
          (updates : List (ProjectionDelta × String)),
          (appendedEntries evaluate (placeholderSkeleton orderId seedOccurredAt)
            updates).Perm (entries.map TimelineEntry.withoutRank) →
          ((migrateTimelineOrder collection).1[index]?).map
              OrderTimelineDocument.events =
            some (projectAll evaluate (placeholderSkeleton orderId seedOccurredAt)
              updates).events) ∧
      ∀ collection : List OrderTimelineDocument,
        migrateTimelineOrder (migrateTimelineOrder collection).1 =
          ((migrateTimelineOrder collection).1, ⟨0, 0⟩) := by
  refine ⟨causalTimelineOrder_perm entries, ?_,
    causalTimelineOrder_causalTimelineOrder distinct, ?_,
    migrateTimelineOrder_again⟩
  · intro arranged perm
    exact (causalTimelineOrder_eq_of_perm distinct perm).symm
  · intro collection index document found mismatch stored evaluate orderId
      seedOccurredAt updates same
    rw [migrateTimelineOrder_fst, List.getElem?_map, found, Option.map_some,
      Option.map_some, if_pos mismatch]
    exact congrArg some (events_resort_eq_projectAll distinct stored same)

/-- Two entries that name each other, and one that names itself. -/
def causeCycle : List TimelineEntry :=
  [ plainEntry "a" "b" "2026-08-24T16:00:05.000Z",
    plainEntry "b" "a" "2026-08-24T16:00:05.000Z",
    plainEntry "c" "c" "2026-08-24T16:00:05.000Z" ]

theorem causeCycle_canonical :
    causalTimelineOrder causeCycle.reverse = causalTimelineOrder causeCycle := by
  have distinct : DistinctEvents causeCycle := by
    unfold DistinctEvents
    decide
  exact (causalTimelineOrder_canonical distinct).2.1 _
    (List.reverse_perm causeCycle).symm

end OrderToCash.Projector
