import OrderToCash.Web.LiveSignal
import OrderToCash.Web.OrderDetail

/-!
# The page's timeline and the document's

The document orders its timeline by time, by causes and by identity, the page
orders its own by time and by arrival.  They agree where the fact that arrives
comes last among the entries of its instant.
-/

namespace OrderToCash.Web

open OrderToCash.Causal
open OrderToCash.Contracts
open OrderToCash.Kernel
open OrderToCash.Projector

/-- A stored document whose timeline is in its causal order. -/
structure StoredInOrder (document : OrderTimelineDocument) : Prop
    extends Stored document where
  ordered : causalTimelineOrder document.events = document.events

/-- Every document the projector writes is stored so. -/
theorem storedInOrder_applyFact {document : OrderTimelineDocument}
    {envelope : FactEnvelope} (evaluate : Evaluation) (stored : Stored document)
    (fresh : dedupKeyOf envelope.eventId ∉ document.processedEventKeys) :
    StoredInOrder (applyFact evaluate document envelope) where
  toStored := stored.applyFact evaluate fresh
  ordered := by
    have distinct := (stored.applyFact evaluate fresh).distinct
    rw [events_applyFact] at distinct ⊢
    apply causalTimelineOrder_causalTimelineOrder
    exact (eventIds_causalTimelineOrder _).nodup_iff.mp distinct

theorem StoredInOrder.ascends {document : OrderTimelineDocument}
    (stored : StoredInOrder document) :
    document.events.Pairwise fun first second =>
      first.occurredAt ≤ second.occurredAt := by
  rw [← stored.ordered, causalTimelineOrder_eq]
  exact timelineKeys.ascends_causalOrder _

/-! ## One fact -/

/-- The `timeline.appended` frame of a fact. -/
def frameOf (document : OrderTimelineDocument) (envelope : FactEnvelope) :
    TimelineStreamEntry :=
  { eventId := envelope.eventId
    orderId := document.orderId
    orderReference := document.orderReference
    eventType := envelope.eventType
    occurredAt := envelope.occurredAt
    summary := (summaryOf envelope.fact).1
    causationId := some envelope.causationId }

/-- The identities of a timeline, in its order. -/
def eventIdsOf (detail : OrderDetail) : List String :=
  detail.events.map TimelineEntry.eventId

/-- The page that applies the frame of a fact shows what a request would show
after the projector has applied the fact. -/
def AgreesOn (evaluate : Evaluation) (document : OrderTimelineDocument)
    (envelope : FactEnvelope) : Prop :=
  eventIdsOf
      (applyTimelineAppended (frameOf (applyFact evaluate document envelope) envelope)
        (toOrderDetail document)) =
    eventIdsOf (toOrderDetail (applyFact evaluate document envelope))

/-- A fact comes last among the entries of its instant, and the entries stored
keep their order beside it. -/
def TiesLast (document : OrderTimelineDocument) (envelope : FactEnvelope) : Prop :=
  (∀ entry ∈ document.events, entry.occurredAt = envelope.occurredAt →
    timelineKeys.AtMost (document.events ++ [entryOf envelope]) entry
      (entryOf envelope)) ∧
    document.events.Pairwise
      (timelineKeys.AtMost (document.events ++ [entryOf envelope]))

instance (document : OrderTimelineDocument) (envelope : FactEnvelope) :
    Decidable (TiesLast document envelope) :=
  inferInstanceAs
    (Decidable ((∀ _ ∈ document.events, _ → _) ∧ document.events.Pairwise _))

section OneFact

variable {document : OrderTimelineDocument} {envelope : FactEnvelope}

/-- Orders do not read details. -/
theorem eventIds_causalOrder_congr {entries entries' : List TimelineEntry}
    (undetailed : entries.map TimelineEntry.withoutDetail =
      entries'.map TimelineEntry.withoutDetail) :
    (timelineKeys.causalOrder entries).map TimelineEntry.eventId =
      (timelineKeys.causalOrder entries').map TimelineEntry.eventId := by
  have moved : ∀ entries,
      ((timelineKeys.causalOrder entries).map TimelineEntry.withoutDetail).map
          TimelineEntry.eventId =
        (timelineKeys.causalOrder entries).map TimelineEntry.eventId := by
    intro entries
    rw [List.map_map]
    rfl
  rw [← moved, ← moved entries', ← withoutDetail_preserves.causalOrder,
    ← withoutDetail_preserves.causalOrder, undetailed]

theorem eventIds_sortByKey_congr {entries entries' : List TimelineEntry}
    (undetailed : entries.map TimelineEntry.withoutDetail =
      entries'.map TimelineEntry.withoutDetail) :
    (sortByKey TimelineEntry.occurredAt entries).map TimelineEntry.eventId =
      (sortByKey TimelineEntry.occurredAt entries').map TimelineEntry.eventId := by
  have moved : ∀ entries,
      (sortByKey TimelineEntry.occurredAt
          (entries.map TimelineEntry.withoutDetail)).map TimelineEntry.eventId =
        (sortByKey TimelineEntry.occurredAt entries).map TimelineEntry.eventId := by
    intro entries
    rw [sortByKey_map, List.map_map]
    rfl
  rw [← moved, ← moved entries', undetailed]

theorem agreesOn_iff (evaluate : Evaluation) (stored : StoredInOrder document)
    (fresh : dedupKeyOf envelope.eventId ∉ document.processedEventKeys) :
    AgreesOn evaluate document envelope ↔ TiesLast document envelope := by
  have new := stored.new fresh
  have distinct : timelineKeys.Distinct (document.events ++ [entryOf envelope]) := by
    have updated := (stored.applyFact evaluate fresh).distinct
    rw [DistinctEvents, (eventIds_applyFact evaluate document envelope).nodup_iff] at updated
    rwa [Keys.Distinct, List.map_append]
  have served : eventIdsOf (toOrderDetail (applyFact evaluate document envelope)) =
      (timelineKeys.causalOrder (document.events ++ [entryOf envelope])).map
        TimelineEntry.eventId := by
    rw [eventIdsOf, toOrderDetail, events_applyFact, causalTimelineOrder, List.map_map]
    apply eventIds_causalOrder_congr
    rw [List.map_append, List.map_append]
    rfl
  have shown : eventIdsOf
      (applyTimelineAppended (frameOf (applyFact evaluate document envelope) envelope)
        (toOrderDetail document)) =
      (sortByKey TimelineEntry.occurredAt (document.events ++ [entryOf envelope])).map
        TimelineEntry.eventId := by
    have absent : (frameOf (applyFact evaluate document envelope) envelope).eventId ∉
        (toOrderDetail document).events.map TimelineEntry.eventId := new
    rw [eventIdsOf, applyTimelineAppended, appendEntry, if_neg absent]
    apply eventIds_sortByKey_congr
    rw [List.map_append, List.map_append]
    rfl
  have agrees : timelineKeys.causalOrder (document.events ++ [entryOf envelope]) =
        sortByKey TimelineEntry.occurredAt (document.events ++ [entryOf envelope]) ↔
      TiesLast document envelope :=
    timelineKeys.causalOrder_append_eq_sortByKey_iff distinct stored.ascends
  rw [← agrees, AgreesOn, served, shown]
  constructor
  · intro same
    apply timelineKeys.eq_of_eventIds ?_ same.symm
    intro one oneMem other otherMem
    apply Keys.Distinct.inj timelineKeys distinct ((timelineKeys.mem_causalOrder).mp oneMem)
    exact ((sortByKey_perm TimelineEntry.occurredAt _).mem_iff).mp otherMem
  · intro same
    rw [same]

end OneFact

/-! ## Frames in any order -/

/-- The cached detail after frames, in their order. -/
def applyFrames (frames : List TimelineStreamEntry) (detail : OrderDetail) :
    OrderDetail :=
  frames.foldl (fun detail entry => applyTimelineAppended entry detail) detail

/-- The frames come to the same timeline in every order. -/
def OrderIndependent (document : OrderTimelineDocument)
    (frames : List TimelineStreamEntry) : Prop :=
  ∀ first second, first.Perm frames → second.Perm frames →
    eventIdsOf (applyFrames first (toOrderDetail document)) =
      eventIdsOf (applyFrames second (toOrderDetail document))

/-- Frames that the document does not hold are of different instants. -/
def ApartInTime (document : OrderTimelineDocument)
    (frames : List TimelineStreamEntry) : Prop :=
  ∀ first ∈ frames, ∀ second ∈ frames,
    first.eventId ∉ document.events.map TimelineEntry.eventId →
    second.eventId ∉ document.events.map TimelineEntry.eventId →
    first.eventId ≠ second.eventId → first.occurredAt ≠ second.occurredAt

instance (document : OrderTimelineDocument) (frames : List TimelineStreamEntry) :
    Decidable (ApartInTime document frames) :=
  inferInstanceAs (Decidable (∀ _ ∈ frames, ∀ _ ∈ frames, _ → _ → _ → _))

/-- The entries of the frames that a timeline does not hold. -/
def newEntries (events : List TimelineEntry) (frames : List TimelineStreamEntry) :
    List TimelineEntry :=
  (frames.filter fun entry => entry.eventId ∉ events.map TimelineEntry.eventId).map
    appendedEntry

section Frames

variable {events : List TimelineEntry} {frames : List TimelineStreamEntry}

theorem appendEntry_of_mem {entry : TimelineStreamEntry}
    (held : entry.eventId ∈ events.map TimelineEntry.eventId) :
    appendEntry entry events = events :=
  if_pos held

theorem eventIds_appendEntry {entry : TimelineStreamEntry}
    (absent : entry.eventId ∉ events.map TimelineEntry.eventId) :
    ((appendEntry entry events).map TimelineEntry.eventId).Perm
      (events.map TimelineEntry.eventId ++ [entry.eventId]) := by
  rw [appendEntry, if_neg absent]
  have moved := (sortByKey_perm TimelineEntry.occurredAt
    (events ++ [appendedEntry entry])).map TimelineEntry.eventId
  rwa [List.map_append] at moved

theorem events_applyFrames (detail : OrderDetail) :
    (applyFrames frames detail).events =
      frames.foldl (fun events entry => appendEntry entry events) detail.events := by
  induction frames generalizing detail with
  | nil => rfl
  | cons entry rest inductionHypothesis =>
      exact inductionHypothesis (applyTimelineAppended entry detail)

/-- Frames add their new entries behind those of the same instant, by induction
on the frames. -/
theorem block_foldl_appendEntry (instant : String)
    (distinct : (frames.map TimelineStreamEntry.eventId).Nodup) :
    block TimelineEntry.occurredAt instant
        (frames.foldl (fun events entry => appendEntry entry events) events) =
      block TimelineEntry.occurredAt instant events ++
        block TimelineEntry.occurredAt instant (newEntries events frames) := by
  induction frames generalizing events with
  | nil => simp [newEntries, block]
  | cons entry rest inductionHypothesis =>
      rw [List.map_cons, List.nodup_cons] at distinct
      rw [List.foldl_cons, inductionHypothesis distinct.2]
      by_cases held : entry.eventId ∈ events.map TimelineEntry.eventId
      · rw [appendEntry_of_mem held]
        have skipped : newEntries events (entry :: rest) = newEntries events rest := by
          rw [newEntries, newEntries, List.filter_cons, if_neg (by simpa using held)]
        rw [skipped]
      · have added : newEntries events (entry :: rest) =
            appendedEntry entry :: newEntries events rest := by
          rw [newEntries, newEntries, List.filter_cons, if_pos (by simpa using held),
            List.map_cons]
        have others : newEntries (appendEntry entry events) rest =
            newEntries events rest := by
          unfold newEntries
          apply congrArg (List.map appendedEntry)
          apply List.filter_congr
          intro other otherMem
          have apart : other.eventId ≠ entry.eventId := by
            intro same
            exact distinct.1 (same ▸ List.mem_map_of_mem otherMem)
          rw [decide_eq_decide, (eventIds_appendEntry held).mem_iff, List.mem_append,
            List.mem_singleton, or_iff_left apart]
        rw [others, added, appendEntry, if_neg held, block_sortByKey, block_append,
          List.append_assoc, ← block_append _ _ [appendedEntry entry]]
        rfl

theorem ascends_appendEntry (entry : TimelineStreamEntry)
    (ascends : events.Pairwise fun first second => first.occurredAt ≤ second.occurredAt) :
    (appendEntry entry events).Pairwise fun first second =>
      first.occurredAt ≤ second.occurredAt := by
  unfold appendEntry
  split
  · exact ascends
  · exact pairwise_sortByKey TimelineEntry.occurredAt _

theorem ascends_foldl_appendEntry
    (ascends : events.Pairwise fun first second => first.occurredAt ≤ second.occurredAt) :
    (frames.foldl (fun events entry => appendEntry entry events) events).Pairwise
      fun first second => first.occurredAt ≤ second.occurredAt := by
  induction frames generalizing events with
  | nil => exact ascends
  | cons entry rest inductionHypothesis =>
      exact inductionHypothesis (ascends_appendEntry entry ascends)

theorem mem_foldl_appendEntry {entry : TimelineEntry}
    (distinct : (frames.map TimelineStreamEntry.eventId).Nodup) :
    entry ∈ frames.foldl (fun events entry => appendEntry entry events) events ↔
      entry ∈ events ∨ entry ∈ newEntries events frames := by
  have blocks := congrArg (entry ∈ ·)
    (@block_foldl_appendEntry events frames entry.occurredAt distinct)
  simpa [mem_block] using blocks

end Frames

section OrderOfFrames

variable {document : OrderTimelineDocument} {frames : List TimelineStreamEntry}

theorem block_applyFrames (instant : String)
    (distinct : (frames.map TimelineStreamEntry.eventId).Nodup) :
    block TimelineEntry.occurredAt instant
        (applyFrames frames (toOrderDetail document)).events =
      block TimelineEntry.occurredAt instant document.events ++
        block TimelineEntry.occurredAt instant (newEntries document.events frames) := by
  rw [events_applyFrames]
  exact block_foldl_appendEntry instant distinct

theorem newEntries_perm {events : List TimelineEntry}
    {frames' : List TimelineStreamEntry} (perm : frames.Perm frames') :
    (newEntries events frames).Perm (newEntries events frames') :=
  (perm.filter _).map appendedEntry

/-- New entries of different instants make blocks of one. -/
theorem pairwise_newEntries (apart : ApartInTime document frames)
    (distinct : (frames.map TimelineStreamEntry.eventId).Nodup) :
    (newEntries document.events frames).Pairwise fun first second =>
      first.occurredAt ≠ second.occurredAt := by
  unfold newEntries
  rw [List.pairwise_map, List.pairwise_filter]
  have different : frames.Pairwise fun first second =>
      first.eventId ≠ second.eventId := List.pairwise_map.mp distinct
  apply different.imp_of_mem
  intro first second firstMem secondMem ids firstNew secondNew
  exact apart first firstMem second secondMem (of_decide_eq_true firstNew)
    (of_decide_eq_true secondNew) ids

/-- The new entries of one instant are one at most. -/
theorem pairwise_block_newEntries (apart : ApartInTime document frames)
    (distinct : (frames.map TimelineStreamEntry.eventId).Nodup) (instant : String) :
    (block TimelineEntry.occurredAt instant
      (newEntries document.events frames)).Pairwise fun _ _ => False := by
  apply ((pairwise_newEntries apart distinct).filter _).imp_of_mem
  intro one other oneMem otherMem different
  apply different
  rw [((mem_block TimelineEntry.occurredAt).mp oneMem).2,
    ((mem_block TimelineEntry.occurredAt).mp otherMem).2]

theorem orderIndependent_of_apartInTime (stored : StoredInOrder document)
    (distinct : (frames.map TimelineStreamEntry.eventId).Nodup)
    (apart : ApartInTime document frames) : OrderIndependent document frames := by
  have canonical : ∀ {arranged : List TimelineStreamEntry}, arranged.Perm frames →
      (applyFrames arranged (toOrderDetail document)).events =
        (applyFrames frames (toOrderDetail document)).events := by
    intro arranged perm
    have arrangedDistinct := (perm.map TimelineStreamEntry.eventId).nodup_iff.mpr distinct
    apply eq_of_blocks TimelineEntry.occurredAt
    · rw [events_applyFrames]
      exact ascends_foldl_appendEntry stored.ascends
    · rw [events_applyFrames]
      exact ascends_foldl_appendEntry stored.ascends
    · intro instant
      have moved : (block TimelineEntry.occurredAt instant
          (newEntries document.events arranged)).Perm
            (block TimelineEntry.occurredAt instant
              (newEntries document.events frames)) :=
        (newEntries_perm perm).filter _
      have single := pairwise_block_newEntries apart distinct instant
      have same := @List.Perm.eq_of_pairwise _ (fun _ _ => False) _ _
        (fun _ _ _ _ impossible _ => impossible.elim)
        (moved.symm.pairwise single id) single moved
      rw [block_applyFrames instant arrangedDistinct, block_applyFrames instant distinct,
        same]
  intro first second firstPerm secondPerm
  rw [eventIdsOf, eventIdsOf, canonical firstPerm, canonical secondPerm]

theorem mem_applyFrames {entry : TimelineEntry}
    (distinct : (frames.map TimelineStreamEntry.eventId).Nodup) :
    entry ∈ (applyFrames frames (toOrderDetail document)).events ↔
      entry ∈ document.events ∨ entry ∈ newEntries document.events frames := by
  rw [events_applyFrames]
  exact mem_foldl_appendEntry distinct

/-- An entry that frames leave in a timeline is known by its identity. -/
theorem eq_of_mem_applyFrames (stored : StoredInOrder document)
    (distinct : (frames.map TimelineStreamEntry.eventId).Nodup)
    {one other : TimelineEntry}
    (oneMem : one ∈ document.events ∨ one ∈ newEntries document.events frames)
    (otherMem : other ∈ document.events ∨ other ∈ newEntries document.events frames)
    (same : one.eventId = other.eventId) : one = other := by
  have new : ∀ {entry}, entry ∈ newEntries document.events frames →
      entry.eventId ∉ document.events.map TimelineEntry.eventId := by
    intro entry entryMem
    rcases List.mem_map.mp entryMem with ⟨frame, frameMem, rfl⟩
    exact of_decide_eq_true (List.mem_filter.mp frameMem).2
  rcases oneMem with oneOld | oneNew
  · rcases otherMem with otherOld | otherNew
    · exact List.inj_on_of_nodup_map stored.distinct oneOld otherOld same
    · exact absurd (same ▸ List.mem_map_of_mem oneOld) (new otherNew)
  · rcases otherMem with otherOld | otherNew
    · exact absurd (same ▸ List.mem_map_of_mem otherOld) (new oneNew)
    · rcases List.mem_map.mp oneNew with ⟨oneFrame, oneFrameMem, rfl⟩
      rcases List.mem_map.mp otherNew with ⟨otherFrame, otherFrameMem, rfl⟩
      have frames := List.inj_on_of_nodup_map distinct
        (List.mem_filter.mp oneFrameMem).1 (List.mem_filter.mp otherFrameMem).1 same
      rw [frames]

/-- Two frames of one instant stand in the order they came. -/
theorem apartInTime_of_orderIndependent (stored : StoredInOrder document)
    (distinct : (frames.map TimelineStreamEntry.eventId).Nodup)
    (independent : OrderIndependent document frames) : ApartInTime document frames := by
  intro first firstMem second secondMem firstNew secondNew ids sameTime
  have others : second ∈ frames.erase first := by
    apply (List.mem_erase_of_ne ?_).mpr secondMem
    exact fun same => ids (congrArg TimelineStreamEntry.eventId same.symm)
  have perm : (first :: second :: (frames.erase first).erase second).Perm frames :=
    (((List.perm_cons_erase others).symm.cons first).trans
      (List.perm_cons_erase firstMem).symm)
  have swapped : (second :: first :: (frames.erase first).erase second).Perm frames :=
    (List.Perm.swap first second _).trans perm
  have permDistinct := (perm.map TimelineStreamEntry.eventId).nodup_iff.mpr distinct
  have swappedDistinct := (swapped.map TimelineStreamEntry.eventId).nodup_iff.mpr distinct
  have same : (applyFrames (first :: second :: (frames.erase first).erase second)
        (toOrderDetail document)).events =
      (applyFrames (second :: first :: (frames.erase first).erase second)
        (toOrderDetail document)).events := by
    apply timelineKeys.eq_of_eventIds ?_ (independent _ _ perm swapped)
    intro one oneMem other otherMem sameId
    rw [mem_applyFrames permDistinct, (newEntries_perm perm).mem_iff] at oneMem
    rw [mem_applyFrames swappedDistinct, (newEntries_perm swapped).mem_iff] at otherMem
    exact eq_of_mem_applyFrames stored distinct oneMem otherMem sameId
  have blocks := congrArg (block TimelineEntry.occurredAt first.occurredAt) same
  rw [block_applyFrames _ permDistinct, block_applyFrames _ swappedDistinct] at blocks
  have tails := List.append_cancel_left blocks
  simp only [newEntries, List.filter_cons, firstNew, secondNew, not_false_eq_true,
    decide_true, if_true, List.map_cons, block, appendedEntry, sameTime] at tails
  rw [List.cons.injEq] at tails
  exact ids (congrArg TimelineEntry.eventId tails.1)

end OrderOfFrames

/-- The page's timeline is the document's exactly where the fact comes last among
the entries of its instant, and does not depend on the order of frames exactly
where no two of them are of one instant. -/
theorem timelines_agree_iff {document : OrderTimelineDocument}
    {envelope : FactEnvelope} (evaluate : Evaluation)
    (frames : List TimelineStreamEntry) (stored : StoredInOrder document)
    (fresh : dedupKeyOf envelope.eventId ∉ document.processedEventKeys)
    (distinct : (frames.map TimelineStreamEntry.eventId).Nodup) :
    AgreesOn evaluate document envelope ∧ OrderIndependent document frames ↔
      TiesLast document envelope ∧ ApartInTime document frames := by
  apply and_congr (agreesOn_iff evaluate stored fresh)
  constructor
  · exact apartInTime_of_orderIndependent stored distinct
  · exact orderIndependent_of_apartInTime stored distinct

/-! ## Facts of one instant -/

/-- The document of an order whose payment is all that was applied. -/
def paidDocument : OrderTimelineDocument :=
  applyFact verbatim emptyDocument (ProjectorSystem.paymentFact "PAY-1")

theorem paidDocument_stored : StoredInOrder paidDocument :=
  storedInOrder_applyFact verbatim emptyDocument_stored (by decide +kernel)

/-- The frames of the reservation and of the payment. -/
def paidFrames : List TimelineStreamEntry :=
  [ frameOf paidDocument ProjectorSystem.reservedFact,
    frameOf paidDocument (ProjectorSystem.paymentFact "PAY-1") ]

theorem late_fact_agrees :
    AgreesOn verbatim paidDocument ProjectorSystem.reservedFact ∧
      OrderIndependent paidDocument paidFrames := by
  apply (timelines_agree_iff verbatim paidFrames paidDocument_stored
    (by decide +kernel) (by decide +kernel)).mpr
  constructor
  · decide +kernel
  · decide +kernel

/-- A reservation of the payment's instant. -/
def tiedFact : FactEnvelope :=
  { ProjectorSystem.reservedFact with occurredAt := "2026-08-24T11:00:00.000Z" }

/-- The document puts the reservation first, by its identity, and the page puts it
last. -/
theorem timelines_not_always_agree :
    ¬∀ (evaluate : Evaluation) (document : OrderTimelineDocument)
        (envelope : FactEnvelope) (frames : List TimelineStreamEntry),
        StoredInOrder document →
        dedupKeyOf envelope.eventId ∉ document.processedEventKeys →
        (frames.map TimelineStreamEntry.eventId).Nodup →
        AgreesOn evaluate document envelope ∧ OrderIndependent document frames := by
  intro always
  have agrees := (always verbatim paidDocument tiedFact [] paidDocument_stored
    (by decide +kernel) List.nodup_nil).1
  have differs : ¬AgreesOn verbatim paidDocument tiedFact := by
    unfold AgreesOn
    decide +kernel
  exact differs agrees

end OrderToCash.Web
