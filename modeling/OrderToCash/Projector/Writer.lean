import OrderToCash.Projector.Projection
import OrderToCash.Transition.Run

/-!
# Writing the read model

A delivery of a fact first makes sure that its order has a document, by an upsert
of the placeholder, and then issues one conditional update: it matches a document
that does not hold the fact's key and writes the key with everything else.  The
upsert of an absent document may lose the race for the insert against another
delivery's, and is tried once more.

The system is the document of one order with the deliveries of its facts.
-/

namespace OrderToCash.Projector

open OrderToCash.Contracts
open OrderToCash.Kernel
open OrderToCash.Transition

def dedupKeyOf (eventId : String) : String :=
  "projector:" ++ eventId

theorem dedupKeyOf_inj {first second : String} :
    dedupKeyOf first = dedupKeyOf second ↔ first = second := by
  constructor
  · intro same
    have characters := congrArg String.toList same
    simp only [dedupKeyOf, String.toList_append] at characters
    exact String.toList_injective (List.append_cancel_left characters)
  · exact congrArg dedupKeyOf

/-- The update of a fact on a document. -/
def applyFact (evaluate : Evaluation) (document : OrderTimelineDocument)
    (envelope : FactEnvelope) : OrderTimelineDocument :=
  deltaToPipeline evaluate (projectFact envelope) (dedupKeyOf envelope.eventId) document

/-- `findOneAndUpdate` under the filter of the idempotent consumer; `none` where
it matches nothing. -/
def findOneAndUpdate (evaluate : Evaluation) (document : OrderTimelineDocument)
    (envelope : FactEnvelope) : Option OrderTimelineDocument :=
  if dedupKeyOf envelope.eventId ∈ document.processedEventKeys then none
  else some (applyFact evaluate document envelope)

inductive ApplyPhase
  /-- About to match the order's document; the second time after a lost race. -/
  | upserting (retried : Bool)
  /-- Matched nothing and is about to insert the placeholder. -/
  | inserting (retried : Bool)
  | applying
  | processed
  | duplicate
  | thrown
deriving DecidableEq, Repr

namespace ApplyPhase

/-- The delivery is done with, and its fact applied by it or before. -/
def Returned : ApplyPhase → Prop
  | .processed => True
  | .duplicate => True
  | _ => False

instance (phase : ApplyPhase) : Decidable phase.Returned := by
  cases phase <;> unfold Returned <;> infer_instance

end ApplyPhase

/-- One call of `ProjectionApplyService.apply`. -/
structure ApplyCall where
  envelope : FactEnvelope
  phase : ApplyPhase
deriving DecidableEq, Repr

structure ProjectorSystem where
  document : Option OrderTimelineDocument
  calls : List ApplyCall
deriving DecidableEq, Repr

inductive ProjectorAction
  /-- A fact is delivered, for the first time or again. -/
  | deliver (envelope : FactEnvelope)
  | matchPlaceholder (index : Nat)
  | insertPlaceholder (index : Nat)
  | update (index : Nat)
  /-- The call throws, or its process ends. -/
  | abandon (index : Nat)
deriving DecidableEq, Repr

namespace ProjectorSystem

def initial : ProjectorSystem :=
  { document := none
    calls := [] }

def setPhase (system : ProjectorSystem) (index : Nat) (envelope : FactEnvelope)
    (phase : ApplyPhase) : ProjectorSystem :=
  { system with calls := system.calls.set index ⟨envelope, phase⟩ }

def matchPlaceholder (system : ProjectorSystem) (index : Nat) :
    Option ProjectorSystem :=
  match system.calls[index]? with
  | some ⟨envelope, .upserting retried⟩ =>
      match system.document with
      | some _ => some (system.setPhase index envelope .applying)
      | none => some (system.setPhase index envelope (.inserting retried))
  | _ => none

def insertPlaceholder (system : ProjectorSystem) (index : Nat) :
    Option ProjectorSystem :=
  match system.calls[index]? with
  | some ⟨envelope, .inserting retried⟩ =>
      match system.document with
      | none =>
          some
            { system.setPhase index envelope .applying with
              document :=
                some (placeholderSkeleton envelope.correlationId envelope.occurredAt) }
      | some _ =>
          -- E11000: the upsert is tried again once, then the error goes up.
          if retried then some (system.setPhase index envelope .thrown)
          else some (system.setPhase index envelope (.upserting true))
  | _ => none

def update (evaluate : Evaluation) (system : ProjectorSystem) (index : Nat) :
    Option ProjectorSystem :=
  match system.calls[index]? with
  | some ⟨envelope, .applying⟩ =>
      match system.document with
      | none => some (system.setPhase index envelope .duplicate)
      | some document =>
          match findOneAndUpdate evaluate document envelope with
          | none => some (system.setPhase index envelope .duplicate)
          | some updated =>
              some
                { system.setPhase index envelope .processed with
                  document := some updated }
  | _ => none

def abandon (system : ProjectorSystem) (index : Nat) : Option ProjectorSystem :=
  match system.calls[index]? with
  | some ⟨envelope, .upserting _⟩ => some (system.setPhase index envelope .thrown)
  | some ⟨envelope, .inserting _⟩ => some (system.setPhase index envelope .thrown)
  | some ⟨envelope, .applying⟩ => some (system.setPhase index envelope .thrown)
  | _ => none

def step (evaluate : Evaluation) : Step ProjectorSystem ProjectorAction :=
  fun system action =>
    match action with
    | .deliver envelope =>
        some { system with calls := system.calls ++ [⟨envelope, .upserting false⟩] }
    | .matchPlaceholder index => system.matchPlaceholder index
    | .insertPlaceholder index => system.insertPlaceholder index
    | .update index => system.update evaluate index
    | .abandon index => system.abandon index

/-! ## What a step does -/

/-- What a step does to the document, by the call that takes it. -/
inductive Moves (evaluate : Evaluation) (system : ProjectorSystem) :
    ProjectorAction → ProjectorSystem → Prop
  | deliver (envelope : FactEnvelope) :
      Moves evaluate system (.deliver envelope)
        { system with calls := system.calls ++ [⟨envelope, .upserting false⟩] }
  /-- The call goes on without writing and without having applied its fact. -/
  | stay (action : ProjectorAction) (index : Nat) (envelope : FactEnvelope)
      (before after : ApplyPhase)
      (found : system.calls[index]? = some ⟨envelope, before⟩)
      (unreturned : ¬after.Returned)
      (present : after = .applying → before = .applying ∨ system.document ≠ none) :
      Moves evaluate system action (system.setPhase index envelope after)
  | seed (action : ProjectorAction) (index : Nat) (envelope : FactEnvelope)
      (retried : Bool)
      (found : system.calls[index]? = some ⟨envelope, .inserting retried⟩)
      (absent : system.document = none) :
      Moves evaluate system action
        { system.setPhase index envelope .applying with
          document :=
            some (placeholderSkeleton envelope.correlationId envelope.occurredAt) }
  | skip (action : ProjectorAction) (index : Nat) (envelope : FactEnvelope)
      (found : system.calls[index]? = some ⟨envelope, .applying⟩)
      (held : ∀ document, system.document = some document →
        dedupKeyOf envelope.eventId ∈ document.processedEventKeys) :
      Moves evaluate system action (system.setPhase index envelope .duplicate)
  | apply (action : ProjectorAction) (index : Nat) (envelope : FactEnvelope)
      (document : OrderTimelineDocument)
      (found : system.calls[index]? = some ⟨envelope, .applying⟩)
      (stored : system.document = some document)
      (fresh : dedupKeyOf envelope.eventId ∉ document.processedEventKeys) :
      Moves evaluate system action
        { system.setPhase index envelope .processed with
          document := some (applyFact evaluate document envelope) }

theorem moves_of_step {evaluate : Evaluation} {system next : ProjectorSystem}
    {action : ProjectorAction} (stepped : step evaluate system action = some next) :
    Moves evaluate system action next := by
  cases action with
  | deliver envelope =>
      cases stepped
      exact .deliver envelope
  | matchPlaceholder index =>
      simp only [step, matchPlaceholder] at stepped
      split at stepped
      · rename_i envelope retried found
        split at stepped
        · rename_i document stored
          cases stepped
          apply Moves.stay _ index envelope _ _ found
          · exact id
          · exact fun _ => Or.inr (by simp [stored])
        · cases stepped
          apply Moves.stay _ index envelope _ _ found
          · exact id
          · intro impossible
            contradiction
      · contradiction
  | insertPlaceholder index =>
      simp only [step, insertPlaceholder] at stepped
      split at stepped
      · rename_i envelope retried found
        split at stepped
        · rename_i absent
          cases stepped
          exact .seed _ index envelope retried found absent
        · split at stepped
          · cases stepped
            apply Moves.stay _ index envelope _ _ found
            · exact id
            · intro impossible
              contradiction
          · cases stepped
            apply Moves.stay _ index envelope _ _ found
            · exact id
            · intro impossible
              contradiction
      · contradiction
  | update index =>
      simp only [step, update] at stepped
      split at stepped
      · rename_i envelope found
        split at stepped
        · rename_i absent
          cases stepped
          apply Moves.skip _ index envelope found
          intro document stored
          rw [absent] at stored
          contradiction
        · rename_i document stored
          unfold findOneAndUpdate at stepped
          by_cases held : dedupKeyOf envelope.eventId ∈ document.processedEventKeys
          · rw [if_pos held] at stepped
            cases stepped
            apply Moves.skip _ index envelope found
            intro document' stored'
            rw [stored, Option.some.injEq] at stored'
            exact stored' ▸ held
          · rw [if_neg held] at stepped
            cases stepped
            exact .apply _ index envelope document found stored held
      · contradiction
  | abandon index =>
      simp only [step, abandon] at stepped
      split at stepped
      all_goals try contradiction
      all_goals
        rename_i found
        cases stepped
        apply Moves.stay _ index _ _ _ found
        · exact id
        · intro impossible
          contradiction

end ProjectorSystem

end OrderToCash.Projector
