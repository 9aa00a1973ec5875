import OrderToCash.Projector.Determinism

/-!
# The document a run ends in

A run that brings the facts of an order to their end has applied each of them
once, to the placeholder of one of them.  What it leaves is read off the facts,
whatever their order: the timeline is theirs in causal order, a field that is
filled while it is absent is that of a fact that fills it, and the header is that
of the placement.
-/

namespace OrderToCash.Projector

open OrderToCash.Contracts
open OrderToCash.Kernel
open OrderToCash.Orders
open OrderToCash.Transition

/-! ## Fields that are filled while they are absent -/

/-- Where two facts have the part, they have the same. -/
def Agree {β : Type} (part : FactEnvelope → Option β) (facts : List FactEnvelope) : Prop :=
  ∀ first ∈ facts, ∀ second ∈ facts, ∀ one other,
    part first = some one → part second = some other → one = other

theorem Agree.perm {β : Type} {part : FactEnvelope → Option β}
    {facts facts' : List FactEnvelope} (agree : Agree part facts)
    (perm : facts'.Perm facts) : Agree part facts' := fun first firstMem second secondMem =>
  agree first (perm.subset firstMem) second (perm.subset secondMem)

/-- Where the facts agree, the first that has the part has what any of them has. -/
theorem Agree.findSome_iff {β : Type} {part : FactEnvelope → Option β}
    {facts : List FactEnvelope} (agree : Agree part facts) (value : β) :
    facts.findSome? part = some value ↔ ∃ envelope ∈ facts, part envelope = some value := by
  constructor
  · exact List.exists_of_findSome?_eq_some
  · rintro ⟨envelope, envelopeMem, isValue⟩
    cases found : facts.findSome? part with
    | none =>
        rw [List.findSome?_eq_none_iff] at found
        rw [found envelope envelopeMem] at isValue
        cases isValue
    | some other =>
        rcases List.exists_of_findSome?_eq_some found with ⟨first, firstMem, isOther⟩
        rw [agree first firstMem envelope envelopeMem other value isOther isValue]

/-- A field that a placeholder lacks and every update fills, while it is absent, with
a part of its fact. -/
structure Filled {β : Type} (field : OrderTimelineDocument → Option β)
    (part : FactEnvelope → Option β) : Prop where
  placeholder : ∀ orderId instant, field (placeholderSkeleton orderId instant) = none
  fills : ∀ document envelope,
    field (applyPlain document envelope) = (field document).or (part envelope)

theorem filled_despatchReference :
    Filled (·.references.despatchReference)
      (fun envelope => (fillOf envelope.fact).references.despatchReference) where
  placeholder _ _ := rfl
  fills document envelope := by
    unfold applyPlain setStage
    cases (projectFact envelope).header <;> rfl

theorem filled_invoiceReference :
    Filled (·.references.invoiceReference)
      (fun envelope => (fillOf envelope.fact).references.invoiceReference) where
  placeholder _ _ := rfl
  fills document envelope := by
    unfold applyPlain setStage
    cases (projectFact envelope).header <;> rfl

theorem filled_paymentReference :
    Filled (·.references.paymentReference)
      (fun envelope => (fillOf envelope.fact).references.paymentReference) where
  placeholder _ _ := rfl
  fills document envelope := by
    unfold applyPlain setStage
    cases (projectFact envelope).header <;> rfl

section Fields

variable {facts : List FactEnvelope} {document : OrderTimelineDocument}

/-- Such a field is that of the first fact that has the part. -/
theorem Filled.foldl {β : Type} {field : OrderTimelineDocument → Option β}
    {part : FactEnvelope → Option β} (filled : Filled field part) :
    field (facts.foldl applyPlain document) =
      (field document).or (facts.findSome? part) := by
  induction facts generalizing document with
  | nil => simp
  | cons envelope rest inductionHypothesis =>
      rw [List.foldl_cons, inductionHypothesis, filled.fills, Option.or_assoc]
      congr 1
      cases isPart : part envelope <;> simp [isPart]

theorem orderId_foldl : (facts.foldl applyPlain document).orderId = document.orderId := by
  induction facts generalizing document with
  | nil => rfl
  | cons envelope rest inductionHypothesis =>
      rw [List.foldl_cons, inductionHypothesis, applyPlain, setStage]
      cases (projectFact envelope).header <;> rfl

/-! ## The timeline -/

/-- Facts in a row leave the timeline that all of them make. -/
theorem events_foldl {before : List TimelineEntry}
    (ordered : document.events = causalTimelineOrder before)
    (distinct : DistinctEvents (before ++ facts.map entryOf)) :
    (facts.foldl applyPlain document).events =
      causalTimelineOrder (before ++ facts.map entryOf) := by
  induction facts generalizing document before with
  | nil => simpa using ordered
  | cons envelope rest inductionHypothesis =>
      rw [List.map_cons, List.append_cons] at distinct ⊢
      rw [List.foldl_cons]
      apply inductionHypothesis _ distinct
      have here : DistinctEvents (before ++ [entryOf envelope]) := by
        unfold DistinctEvents at distinct ⊢
        rw [List.map_append] at distinct
        exact (List.nodup_append.mp distinct).1
      rw [events_applyPlain, ordered, causalTimelineOrder_append here]

/-! ## The header -/

/-- The document has what the header writes. -/
def OrderHeaderDelta.IsWritten (header : OrderHeaderDelta)
    (document : OrderTimelineDocument) : Prop :=
  header.write document = document

theorem OrderHeaderDelta.isWritten_write (header : OrderHeaderDelta)
    (document : OrderTimelineDocument) : header.IsWritten (header.write document) :=
  rfl

/-- An update writes its own header. -/
theorem isWritten_applyPlain {envelope : FactEnvelope} {header : OrderHeaderDelta}
    (isHeader : headerOf envelope = some header) :
    header.IsWritten (applyPlain document envelope) := by
  have described : (projectFact envelope).header = some header := isHeader
  rw [applyPlain, setStage, described]
  exact header.isWritten_write _

/-- An update without a header leaves the one that is written. -/
theorem OrderHeaderDelta.IsWritten.applyPlain {header : OrderHeaderDelta}
    (written : header.IsWritten document) {envelope : FactEnvelope}
    (headless : headerOf envelope = none) :
    header.IsWritten (applyPlain document envelope) := by
  have described : (projectFact envelope).header = none := headless
  rw [Projector.applyPlain, setStage, described]
  exact congrArg
    (bodyStage (projectFact envelope) (dedupKeyOf envelope.eventId)) written

/-- A header once written stays, where no other is. -/
theorem OrderHeaderDelta.IsWritten.foldl {header : OrderHeaderDelta}
    (written : header.IsWritten document)
    (only : ∀ envelope ∈ facts, ∀ other, headerOf envelope = some other → other = header) :
    header.IsWritten (facts.foldl Projector.applyPlain document) := by
  induction facts generalizing document with
  | nil => exact written
  | cons envelope rest inductionHypothesis =>
      rw [List.forall_mem_cons] at only
      apply inductionHypothesis _ only.2
      cases isHeader : headerOf envelope with
      | none => exact written.applyPlain isHeader
      | some other =>
          rw [← only.1 other isHeader]
          exact isWritten_applyPlain isHeader

/-- The header among the facts is written. -/
theorem isWritten_foldl {header : OrderHeaderDelta}
    (only : ∀ envelope ∈ facts, ∀ other, headerOf envelope = some other → other = header)
    {placement : FactEnvelope} (placementMem : placement ∈ facts)
    (isHeader : headerOf placement = some header) :
    header.IsWritten (facts.foldl applyPlain document) := by
  induction facts generalizing document with
  | nil => cases placementMem
  | cons envelope rest inductionHypothesis =>
      rw [List.forall_mem_cons] at only
      rcases List.mem_cons.mp placementMem with rfl | later
      · exact (isWritten_applyPlain isHeader).foldl only.2
      · exact inductionHypothesis only.2 later

end Fields

/-! ## Complete runs -/

namespace ProjectorSystem

variable {facts : List FactEnvelope} {evaluate : Evaluation} {system : ProjectorSystem}

/-- A document that holds every key has had every fact applied, each once. -/
theorem Projected.applied_perm {document : OrderTimelineDocument}
    {applied : List FactEnvelope} {seed : FactEnvelope}
    (projected : Projected facts document applied seed)
    (distinct : (facts.map FactEnvelope.eventId).Nodup)
    (held : ∀ envelope ∈ facts,
      dedupKeyOf envelope.eventId ∈ document.processedEventKeys) :
    applied.Perm facts := by
  have appliedOnce : applied.Nodup := List.Nodup.of_map _ projected.distinct
  have factsOnce : facts.Nodup := List.Nodup.of_map _ distinct
  have all : facts ⊆ applied := by
    intro envelope known
    have key := held envelope known
    rw [projected.document, mem_processedEventKeys_foldl] at key
    rcases key with placeholder | ⟨other, otherMem, same⟩
    · simp [placeholderSkeleton] at placeholder
    · have its := List.inj_on_of_nodup_map distinct
        (projected.appliedMem other otherMem) known same
      exact its ▸ otherMem
  exact (List.subperm_of_subset appliedOnce projected.appliedMem).antisymm
    (List.subperm_of_subset factsOnce all)

/-- What a document shows of the facts. -/
structure Shows (facts : List FactEnvelope) (document : OrderTimelineDocument) : Prop where
  filled : ∀ {β : Type} {field : OrderTimelineDocument → Option β}
    {part : FactEnvelope → Option β}, Filled field part → Agree part facts →
    ∀ value, field document = some value ↔ ∃ envelope ∈ facts, part envelope = some value
  header : Agree headerOf facts → ∀ envelope ∈ facts, ∀ header,
    headerOf envelope = some header → header.IsWritten document
  timeline : document.events = causalTimelineOrder (facts.map entryOf)

/-- What the facts leave, they leave in every order. -/
theorem shows_of_perm {applied : List FactEnvelope} (perm : applied.Perm facts)
    (distinct : (facts.map FactEnvelope.eventId).Nodup) (orderId : OrderNumber)
    (instant : String) :
    Shows facts (applied.foldl applyPlain (placeholderSkeleton orderId instant)) where
  filled filled agree value := by
    rw [filled.foldl, filled.placeholder, Option.none_or,
      (agree.perm perm).findSome_iff value]
    simp only [perm.mem_iff]
  header agree envelope envelopeMem header isHeader := by
    apply isWritten_foldl _ (perm.mem_iff.mpr envelopeMem) isHeader
    intro other otherMem its isIts
    exact agree other (perm.subset otherMem) envelope envelopeMem its header isIts isHeader
  timeline := by
    have distinct' : DistinctEvents (applied.map entryOf) := by
      unfold DistinctEvents
      rw [List.map_map]
      exact (perm.map _).nodup_iff.mpr distinct
    have ordered := @events_foldl applied (placeholderSkeleton orderId instant) [] rfl
      distinct'
    rw [ordered, List.nil_append]
    exact causalTimelineOrder_eq_of_perm distinct' (perm.map entryOf)

/-- Where every fact was brought to its end, the document shows them all. -/
theorem document_shows (distinct : (facts.map FactEnvelope.eventId).Nodup)
    (keepsPlain : evaluate.KeepsPlain) (plain : ∀ envelope ∈ facts, envelope.Plain)
    (reached : Reachable (step evaluate) (Delivers facts) initial system)
    (complete : Complete facts system) {known : FactEnvelope} (knownMem : known ∈ facts) :
    ∃ document, system.document = some document ∧ Shows facts document ∧
      ∃ seed ∈ facts, document.orderId = seed.correlationId := by
  have sound := sound_of_reachable keepsPlain plain reached
  have holds : ∀ envelope ∈ facts, ∃ document, system.document = some document ∧
      dedupKeyOf envelope.eventId ∈ document.processedEventKeys := by
    intro envelope envelopeMem
    rcases complete envelope envelopeMem with ⟨call, callMem, rfl, returned⟩
    exact sound.returned call callMem returned
  rcases holds known knownMem with ⟨document, stored, _⟩
  rcases sound.projected document stored with ⟨applied, seed, projected⟩
  have perm : applied.Perm facts := by
    apply projected.applied_perm distinct
    intro envelope envelopeMem
    rcases holds envelope envelopeMem with ⟨other, otherStored, held⟩
    rw [stored, Option.some.injEq] at otherStored
    exact otherStored ▸ held
  refine ⟨document, stored, ?_, seed, projected.seedMem, ?_⟩
  · rw [projected.document]
    exact shows_of_perm perm distinct _ _
  · rw [projected.document, orderId_foldl]
    rfl

end ProjectorSystem

end OrderToCash.Projector
