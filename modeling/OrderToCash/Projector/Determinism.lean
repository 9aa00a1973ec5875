import OrderToCash.Projector.Confluence

/-!
# Replay determinism

Every run that delivers the facts of an order, in whatever order and however
often, and brings each of them to its end, leaves the same document, as long as
no text of the facts is evaluated as a path.
-/

namespace OrderToCash.Projector

open OrderToCash.Contracts
open OrderToCash.Kernel
open OrderToCash.Orders
open OrderToCash.Transition

/-- The facts of one order, each known by its identity, at most one of them for
each field that is written once. -/
structure OrderFacts (orderId : OrderNumber) (facts : List FactEnvelope) : Prop where
  order : ∀ envelope ∈ facts, envelope.correlationId = orderId
  distinct : (facts.map FactEnvelope.eventId).Nodup
  exclusive : facts.Pairwise Exclusive

namespace ProjectorSystem

/-- Only the given facts are delivered. -/
def Delivers (facts : List FactEnvelope) : Guard ProjectorSystem ProjectorAction :=
  fun _ action =>
    match action with
    | .deliver envelope => envelope ∈ facts
    | _ => True

instance (facts : List FactEnvelope) (system : ProjectorSystem)
    (action : ProjectorAction) : Decidable (Delivers facts system action) := by
  cases action <;> unfold Delivers <;> infer_instance

/-- Every one of the facts has been brought to its end by a call. -/
def Complete (facts : List FactEnvelope) (system : ProjectorSystem) : Prop :=
  ∀ envelope ∈ facts, ∃ call ∈ system.calls,
    call.envelope = envelope ∧ call.phase.Returned

instance (facts : List FactEnvelope) (system : ProjectorSystem) :
    Decidable (Complete facts system) :=
  inferInstanceAs (Decidable (∀ _ ∈ facts, ∃ _ ∈ system.calls, _ ∧ _))

/-- What holds of every state reached, with what every update keeps of the
document. -/
structure Keeps (facts : List FactEnvelope) (holds : OrderTimelineDocument → Prop)
    (system : ProjectorSystem) : Prop where
  /-- Calls are of the facts. -/
  calls : ∀ call ∈ system.calls, call.envelope ∈ facts
  /-- A call that is past the upsert found a document. -/
  present : ∀ call ∈ system.calls, call.phase = .applying → system.document ≠ none
  document : ∀ document, system.document = some document → holds document
  returned : ∀ call ∈ system.calls, call.phase.Returned →
    ∃ document, system.document = some document ∧
      dedupKeyOf call.envelope.eventId ∈ document.processedEventKeys

section Keeps

variable {facts : List FactEnvelope} {holds : OrderTimelineDocument → Prop}
  {system : ProjectorSystem}

theorem Keeps.initial : Keeps facts holds initial where
  calls := by simp [ProjectorSystem.initial]
  present := by simp [ProjectorSystem.initial]
  document := by simp [ProjectorSystem.initial]
  returned := by simp [ProjectorSystem.initial]

/-- A call of a state is an earlier one, or the one that was set. -/
theorem mem_setPhase {index : Nat} {envelope : FactEnvelope} {phase : ApplyPhase}
    {call : ApplyCall} (callMem : call ∈ (system.setPhase index envelope phase).calls) :
    call ∈ system.calls ∨ call = ⟨envelope, phase⟩ :=
  List.mem_or_eq_of_mem_set callMem

theorem Keeps.deliver (keeps : Keeps facts holds system) {envelope : FactEnvelope}
    (known : envelope ∈ facts) :
    Keeps facts holds
      { system with calls := system.calls ++ [⟨envelope, .upserting false⟩] } where
  calls call callMem := by
    rcases List.mem_append.mp callMem with old | new
    · exact keeps.calls call old
    · rw [List.mem_singleton] at new
      subst new
      exact known
  present call callMem applying := by
    rcases List.mem_append.mp callMem with old | new
    · exact keeps.present call old applying
    · rw [List.mem_singleton] at new
      subst new
      contradiction
  document := keeps.document
  returned call callMem returned := by
    rcases List.mem_append.mp callMem with old | new
    · exact keeps.returned call old returned
    · rw [List.mem_singleton] at new
      subst new
      exact absurd returned id

/-- A call takes a phase and the document becomes what it is to become, with
every key it had. -/
theorem Keeps.set (keeps : Keeps facts holds system) {index : Nat} {envelope : FactEnvelope}
    {before after : ApplyPhase} {document : Option OrderTimelineDocument}
    (found : system.calls[index]? = some ⟨envelope, before⟩)
    (grows : ∀ stored, system.document = some stored →
      ∃ next, document = some next ∧
        ∀ key ∈ stored.processedEventKeys, key ∈ next.processedEventKeys)
    (held : ∀ next, document = some next → holds next)
    (present : after = .applying → document ≠ none)
    (returned : after.Returned → ∃ next, document = some next ∧
      dedupKeyOf envelope.eventId ∈ next.processedEventKeys) :
    Keeps facts holds
      { system.setPhase index envelope after with document := document } where
  calls call callMem := by
    rcases mem_setPhase callMem with old | rfl
    · exact keeps.calls call old
    · have known := keeps.calls _ (List.mem_of_getElem? found)
      exact known
  present call callMem applying := by
    rcases mem_setPhase callMem with old | rfl
    · intro absent
      cases stored : system.document with
      | none => exact keeps.present call old applying stored
      | some kept =>
          rcases grows kept stored with ⟨next, becomes, -⟩
          exact absurd (absent.symm.trans becomes) (by simp)
    · exact present applying
  document := held
  returned call callMem itsReturned := by
    rcases mem_setPhase callMem with old | rfl
    · rcases keeps.returned call old itsReturned with ⟨stored, storedEq, isHeld⟩
      rcases grows stored storedEq with ⟨next, becomes, keys⟩
      exact ⟨next, becomes, keys _ isHeld⟩
    · exact returned itsReturned

/-- Every step keeps what holds of placeholders and is kept by updates. -/
theorem Keeps.step {evaluate : Evaluation} {action : ProjectorAction}
    {next : ProjectorSystem}
    (seeds : ∀ envelope ∈ facts,
      holds (placeholderSkeleton envelope.correlationId envelope.occurredAt))
    (applies : ∀ envelope ∈ facts, ∀ document, holds document →
      dedupKeyOf envelope.eventId ∉ document.processedEventKeys →
        holds (applyFact evaluate document envelope))
    (keeps : Keeps facts holds system) (admitted : Delivers facts system action)
    (stepped : ProjectorSystem.step evaluate system action = some next) :
    Keeps facts holds next := by
  have keepsAll : ∀ stored, system.document = some stored →
      ∃ next, system.document = some next ∧
        ∀ key ∈ stored.processedEventKeys, key ∈ next.processedEventKeys :=
    fun stored storedEq => ⟨stored, storedEq, fun _ => id⟩
  cases moves_of_step stepped with
  | deliver envelope => exact keeps.deliver admitted
  | stay _ index envelope before after found unreturned present =>
      apply keeps.set found keepsAll keeps.document
      · intro applying
        rcases present applying with already | stored
        · subst already
          exact keeps.present _ (List.mem_of_getElem? found) rfl
        · exact stored
      · intro returned
        exact absurd returned unreturned
  | seed _ index envelope retried found absent =>
      have known := keeps.calls _ (List.mem_of_getElem? found)
      apply keeps.set found
      · intro stored storedEq
        rw [absent] at storedEq
        contradiction
      · intro next becomes
        cases becomes
        exact seeds envelope known
      · intro _ impossible
        contradiction
      · intro returned
        exact absurd returned id
  | skip _ index envelope found held =>
      have stored := keeps.present _ (List.mem_of_getElem? found) rfl
      apply keeps.set found keepsAll keeps.document
      · intro impossible
        contradiction
      · intro _
        rcases Option.ne_none_iff_exists'.mp stored with ⟨document, storedEq⟩
        exact ⟨document, storedEq, held document storedEq⟩
  | apply _ index envelope document found stored fresh =>
      have known := keeps.calls _ (List.mem_of_getElem? found)
      apply keeps.set found
      · intro other otherEq
        rw [stored, Option.some.injEq] at otherEq
        subst otherEq
        apply Exists.intro (applyFact evaluate document envelope)
        apply And.intro rfl
        intro key keyMem
        rw [processedEventKeys_applyFact, mem_unionKey]
        exact Or.inl keyMem
      · intro next becomes
        cases becomes
        exact applies envelope known document (keeps.document document stored) fresh
      · intro impossible
        contradiction
      · intro _
        apply Exists.intro (applyFact evaluate document envelope)
        apply And.intro rfl
        rw [processedEventKeys_applyFact, mem_unionKey]
        exact Or.inr rfl

/-- What holds of placeholders and is kept by updates holds in every state reached. -/
theorem keeps_of_reachable {evaluate : Evaluation}
    (seeds : ∀ envelope ∈ facts,
      holds (placeholderSkeleton envelope.correlationId envelope.occurredAt))
    (applies : ∀ envelope ∈ facts, ∀ document, holds document →
      dedupKeyOf envelope.eventId ∉ document.processedEventKeys →
        holds (applyFact evaluate document envelope))
    (reached : Reachable (ProjectorSystem.step evaluate) (Delivers facts)
      ProjectorSystem.initial system) : Keeps facts holds system :=
  reached.invariant Keeps.initial fun _ _ _ keeps admitted stepped =>
    keeps.step seeds applies admitted stepped

/-- Where every fact was brought to its end, the document holds its key. -/
theorem Keeps.held_of_complete (keeps : Keeps facts holds system)
    (complete : Complete facts system) {document : OrderTimelineDocument}
    (stored : system.document = some document) :
    ∀ envelope ∈ facts, dedupKeyOf envelope.eventId ∈ document.processedEventKeys := by
  intro envelope envelopeMem
  rcases complete envelope envelopeMem with ⟨call, callMem, rfl, returned⟩
  rcases keeps.returned call callMem returned with ⟨other, otherEq, held⟩
  rw [stored, Option.some.injEq] at otherEq
  exact otherEq ▸ held

end Keeps

/-- The document comes of applying some of the facts, each once, to the
placeholder of one of them. -/
structure Projected (facts : List FactEnvelope) (document : OrderTimelineDocument)
    (applied : List FactEnvelope) (seed : FactEnvelope) : Prop where
  seedMem : seed ∈ facts
  appliedMem : ∀ envelope ∈ applied, envelope ∈ facts
  distinct : (applied.map FactEnvelope.eventId).Nodup
  document :
    document =
      applied.foldl applyPlain (placeholderSkeleton seed.correlationId seed.occurredAt)

theorem mem_processedEventKeys_foldl {applied : List FactEnvelope}
    {document : OrderTimelineDocument} {eventId : String} :
    dedupKeyOf eventId ∈ (applied.foldl applyPlain document).processedEventKeys ↔
      dedupKeyOf eventId ∈ document.processedEventKeys ∨
        ∃ envelope ∈ applied, envelope.eventId = eventId := by
  induction applied generalizing document with
  | nil => simp
  | cons envelope applied inductionHypothesis =>
      rw [List.foldl_cons, inductionHypothesis, processedEventKeys_applyPlain,
        mem_unionKey, dedupKeyOf_inj, List.exists_mem_cons_iff, or_assoc,
        eq_comm (a := eventId)]

/-- What holds of every state reached. -/
structure Sound (facts : List FactEnvelope) (system : ProjectorSystem) : Prop where
  /-- Calls are of the facts. -/
  calls : ∀ call ∈ system.calls, call.envelope ∈ facts
  /-- A call that is past the upsert found a document. -/
  present : ∀ call ∈ system.calls, call.phase = .applying → system.document ≠ none
  projected : ∀ document, system.document = some document →
    ∃ applied seed, Projected facts document applied seed
  returned : ∀ call ∈ system.calls, call.phase.Returned →
    ∃ document, system.document = some document ∧
      dedupKeyOf call.envelope.eventId ∈ document.processedEventKeys

section Sound

variable {facts : List FactEnvelope} {system : ProjectorSystem}

/-- Applying a fact that the document does not hold. -/
theorem Projected.apply {document : OrderTimelineDocument}
    {applied : List FactEnvelope} {seed envelope : FactEnvelope}
    (projected : Projected facts document applied seed) (known : envelope ∈ facts)
    (fresh : dedupKeyOf envelope.eventId ∉ document.processedEventKeys) :
    Projected facts (applyPlain document envelope) (applied ++ [envelope]) seed where
  seedMem := projected.seedMem
  appliedMem other otherMem := by
    rcases List.mem_append.mp otherMem with old | new
    · exact projected.appliedMem other old
    · rw [List.mem_singleton] at new
      exact new ▸ known
  distinct := by
    rw [List.map_append, List.map_singleton, List.nodup_append]
    apply And.intro projected.distinct
    apply And.intro (List.nodup_singleton _)
    intro eventId old other new same
    rw [List.mem_singleton] at new
    subst new same
    rcases List.mem_map.mp old with ⟨earlier, earlierMem, its⟩
    apply fresh
    rw [projected.document, mem_processedEventKeys_foldl]
    exact Or.inr ⟨earlier, earlierMem, its⟩
  document := by
    rw [List.foldl_append, ← projected.document]
    rfl

theorem sound_of_reachable {evaluate : Evaluation} (keepsPlain : evaluate.KeepsPlain)
    (plain : ∀ envelope ∈ facts, envelope.Plain)
    (reached : Reachable (ProjectorSystem.step evaluate) (Delivers facts)
      ProjectorSystem.initial system) :
    Sound facts system := by
  have keeps := @keeps_of_reachable facts
    (fun document => ∃ applied seed, Projected facts document applied seed) system evaluate
    (fun envelope known => ⟨[], envelope, known, by simp, by simp, rfl⟩)
    (by
      rintro envelope known document ⟨applied, seed, projected⟩ fresh
      rw [applyFact_eq_applyPlain keepsPlain (plain envelope known) document]
      exact ⟨applied ++ [envelope], seed, projected.apply known fresh⟩)
    reached
  constructor
  · exact keeps.calls
  · exact keeps.present
  · exact keeps.document
  · exact keeps.returned

/-- A complete run has applied the facts, each once. -/
theorem Projected.perm {orderId : OrderNumber} {document : OrderTimelineDocument}
    {applied : List FactEnvelope} {seed : FactEnvelope}
    (orderFacts : OrderFacts orderId facts)
    (projected : Projected facts document applied seed)
    (held : ∀ envelope ∈ facts,
      dedupKeyOf envelope.eventId ∈ document.processedEventKeys) :
    applied.Perm facts := by
  have once : ∀ {envelopes : List FactEnvelope},
      (envelopes.map FactEnvelope.eventId).Nodup → envelopes.Nodup :=
    fun distinct => List.Nodup.of_map _ distinct
  rw [List.perm_ext_iff_of_nodup (once projected.distinct) (once orderFacts.distinct)]
  intro envelope
  constructor
  · exact projected.appliedMem envelope
  · intro known
    have key := held envelope known
    rw [projected.document, mem_processedEventKeys_foldl] at key
    rcases key with placeholder | ⟨other, otherMem, same⟩
    · simp [placeholderSkeleton] at placeholder
    · have its := List.inj_on_of_nodup_map orderFacts.distinct
        (projected.appliedMem other otherMem) known same
      exact its ▸ otherMem

/-- Where every fact was brought to its end, the document is that of the facts. -/
theorem Sound.document_of_complete {orderId : OrderNumber}
    (orderFacts : OrderFacts orderId facts) (sound : Sound facts system)
    (complete : Complete facts system) {witness : FactEnvelope}
    (known : witness ∈ facts) :
    ∃ seed ∈ facts,
      system.document =
        some (facts.foldl applyPlain (placeholderSkeleton orderId seed.occurredAt)) := by
  have holds : ∀ envelope ∈ facts, ∃ document, system.document = some document ∧
      dedupKeyOf envelope.eventId ∈ document.processedEventKeys := by
    intro envelope envelopeMem
    rcases complete envelope envelopeMem with ⟨call, callMem, rfl, returned⟩
    exact sound.returned call callMem returned
  rcases holds witness known with ⟨document, stored, -⟩
  rcases sound.projected document stored with ⟨applied, seed, projected⟩
  have perm : applied.Perm facts := by
    apply projected.perm orderFacts
    intro envelope envelopeMem
    rcases holds envelope envelopeMem with ⟨other, otherEq, held⟩
    rw [stored, Option.some.injEq] at otherEq
    exact otherEq ▸ held
  apply Exists.intro seed
  apply And.intro projected.seedMem
  rw [stored, projected.document, orderFacts.order seed projected.seedMem]
  apply congrArg some
  symm
  apply projected_eq perm.symm orderId projected.seedMem projected.seedMem
    orderFacts.distinct orderFacts.exclusive

end Sound

/-- Complete runs over the same facts leave the same document. -/
theorem document_eq_of_complete {orderId : OrderNumber} {facts : List FactEnvelope}
    {evaluate : Evaluation} {first second : ProjectorSystem}
    (orderFacts : OrderFacts orderId facts) (keepsPlain : evaluate.KeepsPlain)
    (plain : ∀ envelope ∈ facts, envelope.Plain)
    (firstReached : Reachable (ProjectorSystem.step evaluate) (Delivers facts)
      initial first)
    (secondReached : Reachable (ProjectorSystem.step evaluate) (Delivers facts)
      initial second)
    (firstComplete : Complete facts first) (secondComplete : Complete facts second) :
    first.document = second.document := by
  have firstSound := sound_of_reachable keepsPlain plain firstReached
  have secondSound := sound_of_reachable keepsPlain plain secondReached
  cases facts with
  | nil =>
      have absent : ∀ {system : ProjectorSystem}, Sound [] system →
          system.document = none := by
        intro system sound
        cases stored : system.document with
        | none => rfl
        | some document =>
            rcases sound.projected document stored with ⟨applied, seed, projected⟩
            exact absurd projected.seedMem List.not_mem_nil
      rw [absent firstSound, absent secondSound]
  | cons envelope rest =>
      have known : envelope ∈ envelope :: rest := List.mem_cons_self
      rcases firstSound.document_of_complete orderFacts firstComplete known with
        ⟨firstSeed, firstMem, firstDocument⟩
      rcases secondSound.document_of_complete orderFacts secondComplete known with
        ⟨secondSeed, secondMem, secondDocument⟩
      rw [firstDocument, secondDocument, projected_eq (List.Perm.refl _) orderId
        firstMem secondMem orderFacts.distinct orderFacts.exclusive]

/-! ## A text that is a path -/

def OrderStatus.wireName : OrderStatus → String
  | .placed => "placed"
  | .stockReserved => "stock_reserved"
  | .creditApproved => "credit_approved"
  | .confirmed => "confirmed"
  | .despatched => "despatched"
  | .invoiced => "invoiced"
  | .paid => "paid"
  | .completed => "completed"
  | .cancelled => "cancelled"

/-- The path of the status, evaluated. -/
def statusPath : Evaluation := fun document text =>
  if text = "$status" then OrderStatus.wireName document.status else text

theorem statusPath_keepsPlain : statusPath.KeepsPlain := by
  intro document text plain
  have other : text ≠ "$status" := by
    rintro rfl
    exact plain (by decide)
  exact if_neg other

def reservedFact : FactEnvelope :=
  { eventId := "11111111-1111-4111-8111-111111111111"
    causationId := "00000000-0000-4000-8000-000000000000"
    occurredAt := "2026-08-24T10:00:00.000Z"
    fact := .stockReserved
      { orderReference := ⟨1⟩
        companyCode := "COM-0001"
        retailerCode := "RET-0001"
        reservations := [] }
    placement := ⟨"", "", ""⟩ }

/-- A payment registered under a reference. -/
def paymentFact (paymentReference : String) : FactEnvelope :=
  { eventId := "22222222-2222-4222-8222-222222222222"
    causationId := "00000000-0000-4000-8000-000000000000"
    occurredAt := "2026-08-24T11:00:00.000Z"
    fact := .paymentReceived
      { orderReference := ⟨1⟩
        invoiceReference := 1
        paymentReference := paymentReference
        currency := .eur
        amount := 100
        source := .operator }
    placement := ⟨"", "", ""⟩ }

/-- The facts of an order that was paid under a reference. -/
def paidFacts (paymentReference : String) : List FactEnvelope :=
  [reservedFact, paymentFact paymentReference]

theorem paidFacts_orderFacts (paymentReference : String) :
    OrderFacts ⟨1⟩ (paidFacts paymentReference) where
  order := by simp [paidFacts, reservedFact, paymentFact, FactEnvelope.correlationId,
    Fact.orderReference]
  distinct := by
    simp only [paidFacts, List.map_cons, List.map_nil, reservedFact, paymentFact]
    decide
  exclusive := by
    simp [paidFacts, Exclusive, reservedFact, paymentFact, FactEnvelope.eventType,
      Fact.eventType]

/-- Two deliveries, one after the other. -/
def inTurn (first second : FactEnvelope) : List ProjectorAction :=
  [ .deliver first, .matchPlaceholder 0, .insertPlaceholder 0, .update 0,
    .deliver second, .matchPlaceholder 1, .update 1 ]

/-- Two deliveries that race for the placeholder, and one of them again. -/
def racing (first second : FactEnvelope) : List ProjectorAction :=
  [ .deliver first, .deliver second, .matchPlaceholder 0, .matchPlaceholder 1,
    .insertPlaceholder 1, .insertPlaceholder 0, .matchPlaceholder 0, .update 0,
    .update 1, .deliver first, .matchPlaceholder 2, .update 2 ]

/-- A run over the facts of a paid order. -/
def paidRun (paymentReference : String) (actions : List ProjectorAction) :
    Option ProjectorSystem :=
  execute (step statusPath)
    (fun system action =>
      decide (Delivers (paidFacts paymentReference) system action))
    initial actions

theorem racing_document_eq_of_complete :
    ∃ first second,
      paidRun "PAY-1" (inTurn reservedFact (paymentFact "PAY-1")) = some first ∧
        paidRun "PAY-1" (racing (paymentFact "PAY-1") reservedFact) = some second ∧
        first.document = second.document := by
  have firstCompletes :
      (paidRun "PAY-1" (inTurn reservedFact (paymentFact "PAY-1"))).any
        (fun system => decide (Complete (paidFacts "PAY-1") system)) = true := by
    decide +kernel
  have secondCompletes :
      (paidRun "PAY-1" (racing (paymentFact "PAY-1") reservedFact)).any
        (fun system => decide (Complete (paidFacts "PAY-1") system)) = true := by
    decide +kernel
  rcases (Option.any_eq_true_iff_get _ _).mp firstCompletes with ⟨firstRan, firstComplete⟩
  rcases (Option.any_eq_true_iff_get _ _).mp secondCompletes with ⟨secondRan, secondComplete⟩
  apply Exists.intro _
  apply Exists.intro _
  apply And.intro (Option.some_get firstRan).symm
  apply And.intro (Option.some_get secondRan).symm
  apply document_eq_of_complete (paidFacts_orderFacts "PAY-1") statusPath_keepsPlain
  · decide +kernel
  · exact reachable_of_execute (Option.some_get firstRan).symm
  · exact reachable_of_execute (Option.some_get secondRan).symm
  · exact of_decide_eq_true firstComplete
  · exact of_decide_eq_true secondComplete

/-- The payment of the reference `$status` stores the status of the moment. -/
theorem document_not_always_determined :
    ¬∀ (orderId : OrderNumber) (facts : List FactEnvelope) (evaluate : Evaluation)
        (first second : ProjectorSystem),
        OrderFacts orderId facts → evaluate.KeepsPlain →
        Reachable (step evaluate) (Delivers facts) initial first →
        Reachable (step evaluate) (Delivers facts) initial second →
        Complete facts first → Complete facts second →
        first.document = second.document := by
  intro always
  have firstEnds :
      (paidRun "$status" (inTurn reservedFact (paymentFact "$status"))).any
        (fun system =>
          decide (Complete (paidFacts "$status") system) &&
            decide (system.document.map
              (fun document => document.references.paymentReference) =
                some (some "stock_reserved"))) = true := by
    decide +kernel
  have secondEnds :
      (paidRun "$status" (inTurn (paymentFact "$status") reservedFact)).any
        (fun system =>
          decide (Complete (paidFacts "$status") system) &&
            decide (system.document.map
              (fun document => document.references.paymentReference) =
                some (some "placed"))) = true := by
    decide +kernel
  rcases (Option.any_eq_true_iff_get _ _).mp firstEnds with ⟨firstRan, first⟩
  rcases (Option.any_eq_true_iff_get _ _).mp secondEnds with ⟨secondRan, second⟩
  rw [Bool.and_eq_true, decide_eq_true_iff, decide_eq_true_iff] at first second
  have same := always ⟨1⟩ (paidFacts "$status") statusPath _ _
    (paidFacts_orderFacts "$status") statusPath_keepsPlain
    (reachable_of_execute (Option.some_get firstRan).symm)
    (reachable_of_execute (Option.some_get secondRan).symm) first.1 second.1
  rw [same] at first
  have stored := first.2.symm.trans second.2
  simp at stored

end ProjectorSystem

end OrderToCash.Projector
