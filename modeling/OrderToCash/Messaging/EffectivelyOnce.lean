import OrderToCash.Messaging.Consumption
import Mathlib.Data.List.Nodup

/-!
# Effectively-once consumption

Only the transaction that holds the row of a key writes anything under that
key, and it commits the row with what it wrote, so the committed works are those
of the rows of `processed_events`, one each.  A dispatch returns normally when
it committed, when it found the row committed, or when it has published the
envelope it was given to the dead-letter topic.
-/

namespace OrderToCash.Messaging

open OrderToCash.Contracts
open OrderToCash.Transition

/-! ## Dispatches -/

namespace Dispatch

/-- The dispatch goes on with the delivery it was called with. -/
structure Continues (dispatch next : Dispatch) : Prop where
  sourceTopic : next.sourceTopic = dispatch.sourceTopic
  envelope : next.envelope = dispatch.envelope
  consumer : next.consumer = dispatch.consumer

theorem Continues.processedEvent {dispatch next : Dispatch}
    (continues : dispatch.Continues next) :
    next.processedEvent = dispatch.processedEvent := by
  unfold Dispatch.processedEvent
  rw [continues.envelope, continues.consumer]

/-- What is on the dead-letter topics of a dispatch, by its phase. -/
def Lettered (policy : FactRetryPolicy) (index : Nat) (letters : List DeadLetter)
    (dispatch : Dispatch) : Prop :=
  match dispatch.phase with
  | .ready | .begun | .recorded | .exhausted => letters = []
  | .returned .deadLettered => letters = [dispatch.deadLetter policy index]
  | .returned _ | .thrown | .crashed => True

/-- A dispatch that returned without a dead letter found its row committed. -/
def Resolved (processedEvents : List ProcessedEvent) (dispatch : Dispatch) : Prop :=
  match dispatch.phase with
  | .returned .processed | .returned .duplicate =>
      dispatch.processedEvent ∈ processedEvents
  | _ => True

/-- The dispatch is inside its loop, or past it with nothing published. -/
def Trying (dispatch : Dispatch) : Prop :=
  dispatch.phase = .ready ∨ dispatch.phase = .begun ∨
    dispatch.phase = .recorded ∨ dispatch.phase = .exhausted

namespace Trying

variable {policy : FactRetryPolicy} {index : Nat} {letters : List DeadLetter}
  {processedEvents : List ProcessedEvent} {dispatch : Dispatch}

theorem lettered (trying : dispatch.Trying) :
    dispatch.Lettered policy index letters ↔ letters = [] := by
  unfold Lettered
  rcases trying with phase | phase | phase | phase
  · rw [phase]
  · rw [phase]
  · rw [phase]
  · rw [phase]

theorem resolved (trying : dispatch.Trying) : dispatch.Resolved processedEvents := by
  unfold Resolved
  rcases trying with phase | phase | phase | phase
  · rw [phase]; trivial
  · rw [phase]; trivial
  · rw [phase]; trivial
  · rw [phase]; trivial

end Trying

theorem enter_continues (dispatch : Dispatch) (phase : DispatchPhase) :
    dispatch.Continues (dispatch.enter phase) :=
  ⟨rfl, rfl, rfl⟩

theorem attempting_continues (dispatch : Dispatch) (policy : FactRetryPolicy)
    (attempt : Nat) : dispatch.Continues (dispatch.attempting policy attempt) :=
  ⟨rfl, rfl, rfl⟩

theorem attempting_trying (dispatch : Dispatch) (policy : FactRetryPolicy)
    (attempt : Nat) : (dispatch.attempting policy attempt).Trying := by
  by_cases more : attempt ≤ policy.maxAttempts
  · exact Or.inl (if_pos more)
  · exact Or.inr (Or.inr (Or.inr (if_neg more)))

theorem failed_continues (dispatch : Dispatch) (policy : FactRetryPolicy)
    (error : StepError) : dispatch.Continues (dispatch.failed policy error) := by
  unfold failed
  split
  · exact ⟨rfl, rfl, rfl⟩
  · exact dispatch.attempting_continues policy _

theorem failed_trying (dispatch : Dispatch) (policy : FactRetryPolicy)
    (error : StepError) : (dispatch.failed policy error).Trying := by
  unfold failed
  split
  · exact Or.inl rfl
  · exact dispatch.attempting_trying policy _

end Dispatch

namespace ConsumptionSystem

variable {Write : Type} {policy : FactRetryPolicy}
  {system system' : ConsumptionSystem Write}

/-! ## The invariant -/

/-- What a dispatch has on the dead-letter topics. -/
def lettersOf (system : ConsumptionSystem Write) (index : Nat) : List DeadLetter :=
  system.deadLetters.filter fun letter => letter.dispatch = index

/-- The dispatch of that index was called for the key. -/
def IsFor (system : ConsumptionSystem Write) (index : Nat)
    (processedEvent : ProcessedEvent) : Prop :=
  ∃ dispatch, system.dispatches[index]? = some dispatch ∧
    dispatch.processedEvent = processedEvent

structure Sound (policy : FactRetryPolicy) (system : ConsumptionSystem Write) :
    Prop where
  unique : system.processedEvents.Nodup
  ledger : system.works.map CommittedWork.processedEvent = system.processedEvents
  uncommitted : ∀ processedEvent transaction,
    system.holder processedEvent = some transaction →
    processedEvent ∉ system.processedEvents
  held : ∀ processedEvent transaction,
    system.holder processedEvent = some transaction →
    system.IsFor transaction.dispatch processedEvent
  worked : ∀ work ∈ system.works, system.IsFor work.dispatch work.processedEvent
  resolved : ∀ (index : Nat) (dispatch : Dispatch),
    system.dispatches[index]? = some dispatch →
    dispatch.Resolved system.processedEvents
  lettered : ∀ (index : Nat) (dispatch : Dispatch),
    system.dispatches[index]? = some dispatch →
    dispatch.Lettered policy index (system.lettersOf index)
  posted : ∀ letter ∈ system.deadLetters,
    letter.dispatch < system.dispatches.length

namespace Sound

theorem initial : Sound policy (initial : ConsumptionSystem Write) := by
  constructor
  · exact List.nodup_nil
  · rfl
  · intro processedEvent transaction held
    cases held
  · intro processedEvent transaction held
    cases held
  · intro work workMem
    cases workMem
  · intro index dispatch found
    cases found
  · intro index dispatch found
    cases found
  · intro letter letterMem
    cases letterMem

variable (sound : Sound policy system)

include sound

theorem letters_nil_of_length_le {index : Nat}
    (beyond : system.dispatches.length ≤ index) : system.lettersOf index = [] := by
  apply List.filter_eq_nil_iff.mpr
  intro letter letterMem isIts
  have posted := sound.posted letter letterMem
  have its : letter.dispatch = index := of_decide_eq_true isIts
  omega

theorem trying_letters {index : Nat} {dispatch : Dispatch}
    (found : system.dispatches[index]? = some dispatch)
    (trying : dispatch.Trying) : system.lettersOf index = [] :=
  trying.lettered.mp (sound.lettered index dispatch found)

theorem deliver (sourceTopic : Topic) (envelope : Envelope)
    (consumer : ConsumerName) :
    Sound policy (system.deliver policy sourceTopic envelope consumer) := by
  have keeps : ∀ index processedEvent, system.IsFor index processedEvent →
      (system.deliver policy sourceTopic envelope consumer).IsFor index
        processedEvent := by
    rintro index processedEvent ⟨dispatch, found, isFor⟩
    exact ⟨dispatch, by
      rw [← found]
      exact List.getElem?_append_left (List.getElem?_eq_some_iff.mp found).1, isFor⟩
  have trying : (Dispatch.start policy sourceTopic envelope consumer).Trying :=
    Dispatch.attempting_trying _ policy 1
  have cases : ∀ index dispatch,
      (system.deliver policy sourceTopic envelope consumer).dispatches[index]? =
        some dispatch →
      system.dispatches[index]? = some dispatch ∨
        (system.dispatches.length ≤ index ∧ dispatch.Trying) := by
    intro index dispatch found
    rcases Nat.lt_or_ge index system.dispatches.length with within | beyond
    · apply Or.inl
      rw [← found]
      exact (List.getElem?_append_left within).symm
    · apply Or.inr
      apply And.intro beyond
      have last : dispatch = Dispatch.start policy sourceTopic envelope consumer := by
        have member := List.mem_of_getElem? (by
          rw [← List.getElem?_append_right beyond]
          exact found)
        exact List.mem_singleton.mp member
      rw [last]
      exact trying
  exact
    { unique := sound.unique
      ledger := sound.ledger
      uncommitted := sound.uncommitted
      held := fun processedEvent transaction found =>
        keeps _ _ (sound.held processedEvent transaction found)
      worked := fun work workMem => keeps _ _ (sound.worked work workMem)
      resolved := by
        intro index dispatch found
        rcases cases index dispatch found with before | ⟨_, isNew⟩
        · exact sound.resolved index dispatch before
        · exact isNew.resolved
      lettered := by
        intro index dispatch found
        rcases cases index dispatch found with before | ⟨beyond, isNew⟩
        · exact sound.lettered index dispatch before
        · exact isNew.lettered.mpr (sound.letters_nil_of_length_le beyond)
      posted := by
        intro letter letterMem
        apply Nat.lt_of_lt_of_le (sound.posted letter letterMem)
        simp [ConsumptionSystem.deliver] }

/-- A dispatch goes on, publishing some messages of its own, as long as what its
new phase says is so. -/
theorem post (letters : List DeadLetter) {index : Nat} {dispatch next : Dispatch}
    (found : system.dispatches[index]? = some dispatch)
    (continues : dispatch.Continues next)
    (its : ∀ letter ∈ letters, letter.dispatch = index)
    (resolved : next.Resolved system.processedEvents)
    (lettered : next.Lettered policy index (system.lettersOf index ++ letters)) :
    Sound policy
      { system.setDispatch index next with
        deadLetters := system.deadLetters ++ letters } := by
  have within := (List.getElem?_eq_some_iff.mp found).1
  have keeps : ∀ other processedEvent, system.IsFor other processedEvent →
      (system.setDispatch index next).IsFor other processedEvent := by
    rintro other processedEvent ⟨before, foundBefore, isFor⟩
    by_cases same : index = other
    · subst same
      rw [found, Option.some.injEq] at foundBefore
      subst foundBefore
      exact ⟨next, List.getElem?_set_self within,
        continues.processedEvent.trans isFor⟩
    · exact ⟨before, (List.getElem?_set_ne same).trans foundBefore, isFor⟩
  have cases : ∀ other after,
      (system.setDispatch index next).dispatches[other]? = some after →
      (other = index ∧ after = next) ∨
        (other ≠ index ∧ system.dispatches[other]? = some after) := by
    intro other after foundAfter
    by_cases same : index = other
    · subst same
      apply Or.inl
      apply And.intro rfl
      exact (Option.some.inj ((List.getElem?_set_self within).symm.trans
        foundAfter)).symm
    · exact Or.inr ⟨Ne.symm same, (List.getElem?_set_ne same).symm.trans foundAfter⟩
  have own : letters.filter (fun letter => letter.dispatch = index) = letters :=
    List.filter_eq_self.mpr fun letter letterMem =>
      decide_eq_true (its letter letterMem)
  have others : ∀ other, other ≠ index →
      letters.filter (fun letter => letter.dispatch = other) = [] := by
    intro other differs
    apply List.filter_eq_nil_iff.mpr
    intro letter letterMem isOthers
    exact differs ((of_decide_eq_true isOthers).symm.trans (its letter letterMem))
  exact
    { unique := sound.unique
      ledger := sound.ledger
      uncommitted := sound.uncommitted
      held := fun processedEvent transaction holds =>
        keeps _ _ (sound.held processedEvent transaction holds)
      worked := fun work workMem => keeps _ _ (sound.worked work workMem)
      resolved := by
        intro other after foundAfter
        rcases cases other after foundAfter with ⟨_, rfl⟩ | ⟨_, before⟩
        · exact resolved
        · exact sound.resolved other after before
      lettered := by
        intro other after foundAfter
        simp only [lettersOf, List.filter_append]
        rcases cases other after foundAfter with ⟨rfl, rfl⟩ | ⟨differs, before⟩
        · rw [own]
          exact lettered
        · rw [others other differs, List.append_nil]
          exact sound.lettered other after before
      posted := by
        intro letter letterMem
        have length : (system.setDispatch index next).dispatches.length =
            system.dispatches.length := List.length_set
        rw [length]
        rcases List.mem_append.mp letterMem with before | posted
        · exact sound.posted letter before
        · rw [its letter posted]
          exact within }

/-- A dispatch goes on, publishing nothing. -/
theorem setDispatch {index : Nat} {dispatch next : Dispatch}
    (found : system.dispatches[index]? = some dispatch)
    (continues : dispatch.Continues next)
    (resolved : next.Resolved system.processedEvents)
    (lettered : next.Lettered policy index (system.lettersOf index)) :
    Sound policy (system.setDispatch index next) := by
  have posted := sound.post [] found continues
    (by intro letter letterMem; cases letterMem) resolved
    (by rw [List.append_nil]; exact lettered)
  rw [List.append_nil] at posted
  exact posted

/-- The row of a key is given up, or held by a dispatch called for it. -/
theorem setHolder {processedEvent : ProcessedEvent}
    {transaction : Option (OpenTransaction Write)}
    (admissible : ∀ held, transaction = some held →
      processedEvent ∉ system.processedEvents ∧
        system.IsFor held.dispatch processedEvent) :
    Sound policy (system.setHolder processedEvent transaction) := by
  have cases : ∀ other held,
      (system.setHolder processedEvent transaction).holder other = some held →
      other ∉ system.processedEvents ∧ system.IsFor held.dispatch other := by
    intro other held holds
    by_cases same : other = processedEvent
    · subst same
      apply admissible held
      rw [← holds]
      exact (Function.update_self other transaction system.holder).symm
    · have before : system.holder other = some held := by
        rw [← holds]
        exact (Function.update_of_ne same transaction system.holder).symm
      exact ⟨sound.uncommitted other held before, sound.held other held before⟩
  exact
    { sound with
      uncommitted := fun other held holds => (cases other held holds).1
      held := fun other held holds => (cases other held holds).2 }

/-- The dispatch that holds a row goes on holding it, in another way. -/
theorem rehold {processedEvent : ProcessedEvent} {dispatch : Nat}
    {writes writes' : Option (List Write)} {standing standing' : Standing}
    (holds : system.holder processedEvent = some ⟨dispatch, writes, standing⟩) :
    Sound policy
      (system.setHolder processedEvent (some ⟨dispatch, writes', standing'⟩)) := by
  apply sound.setHolder
  have isFor := sound.held _ _ holds
  rintro held ⟨⟩
  exact ⟨sound.uncommitted _ _ holds, isFor⟩

theorem detach (index : Nat) (processedEvent : ProcessedEvent)
    (standing : Standing) :
    Sound policy (system.detach index processedEvent standing) := by
  unfold ConsumptionSystem.detach
  split
  · rename_i dispatch writes holds
    split
    · exact sound.rehold holds
    · exact sound
  · exact sound

/-- The holder of a row commits it with what it wrote. -/
theorem apply {processedEvent : ProcessedEvent} {dispatch : Nat}
    {writes : Option (List Write)} {standing : Standing}
    (holds : system.holder processedEvent = some ⟨dispatch, writes, standing⟩)
    (written : List Write) :
    Sound policy (system.apply processedEvent dispatch written) := by
  have isNew := sound.uncommitted _ _ holds
  have released : Sound policy (system.setHolder processedEvent none) :=
    sound.setHolder (by intro held isSome; cases isSome)
  exact
    { unique := by
        apply sound.unique.concat isNew |> fun nodup => ?_
        simpa [ConsumptionSystem.apply, List.concat_eq_append] using nodup
      ledger := by
        simp [ConsumptionSystem.apply, ConsumptionSystem.setHolder, sound.ledger]
      uncommitted := by
        intro other held othersHeld member
        rcases List.mem_append.mp member with before | same
        · exact released.uncommitted other held othersHeld before
        · rw [List.mem_singleton.mp same] at othersHeld
          simp [ConsumptionSystem.apply, ConsumptionSystem.setHolder] at othersHeld
      held := released.held
      worked := by
        intro work workMem
        rcases List.mem_append.mp workMem with before | same
        · exact sound.worked work before
        · rw [List.mem_singleton.mp same]
          exact sound.held _ _ holds
      resolved := by
        intro index called found
        have before := sound.resolved index called found
        unfold Dispatch.Resolved at before ⊢
        split
        · rename_i phase
          rw [phase] at before
          exact List.mem_append_left _ before
        · rename_i phase
          rw [phase] at before
          exact List.mem_append_left _ before
        · trivial
      lettered := sound.lettered
      posted := sound.posted }

/-- A transaction that begins holds nothing yet. -/
theorem begin {index : Nat}
    (stepped : system.begin index = some system') : Sound policy system' := by
  simp only [ConsumptionSystem.begin] at stepped
  split at stepped
  · cases stepped
  · rename_i dispatch found
    split at stepped
    · rename_i ready
      cases stepped
      have begun : (dispatch.enter .begun).Trying :=
        Or.inr (Or.inl rfl)
      exact sound.setDispatch found (dispatch.enter_continues _) begun.resolved
        (begun.lettered.mpr (sound.trying_letters found (Or.inl ready)))
    · cases stepped

/-- The row of a key is found committed, or is taken by the dispatch. -/
theorem record {index : Nat}
    (stepped : system.record index = some system') : Sound policy system' := by
  simp only [ConsumptionSystem.record] at stepped
  split at stepped
  · cases stepped
  · rename_i dispatch found
    split at stepped
    · rename_i begun free
      split at stepped
      · rename_i committed
        cases stepped
        exact sound.setDispatch found (dispatch.enter_continues _) committed trivial
      · rename_i isNew
        cases stepped
        have recorded : (dispatch.enter .recorded).Trying :=
          Or.inr (Or.inr (Or.inl rfl))
        have moved := sound.setDispatch found (dispatch.enter_continues _) recorded.resolved
          (recorded.lettered.mpr
            (sound.trying_letters found (Or.inr (Or.inl begun))))
        apply moved.setHolder
        rintro held ⟨⟩
        exact ⟨isNew, _,
          List.getElem?_set_self (List.getElem?_eq_some_iff.mp found).1, rfl⟩
    · cases stepped

/-- The holder of a row works on under it. -/
theorem work {index : Nat} {writes : List Write}
    (stepped : system.work index writes = some system') : Sound policy system' := by
  simp only [ConsumptionSystem.work] at stepped
  split at stepped
  · cases stepped
  · rename_i dispatch found
    split at stepped
    · rename_i recorded holds
      split at stepped
      · rename_i own
        cases stepped
        subst own
        exact sound.rehold holds
      · cases stepped
    · cases stepped

/-- The row is committed first; the dispatch returns because of it. -/
theorem commit {index : Nat}
    (stepped : system.commit index = some system') : Sound policy system' := by
  simp only [ConsumptionSystem.commit] at stepped
  split at stepped
  · cases stepped
  · rename_i dispatch found
    split at stepped
    · rename_i holder writes recorded holds
      split at stepped
      · rename_i own
        cases stepped
        subst own
        apply (sound.apply holds writes).setDispatch found (dispatch.enter_continues _)
        · exact List.mem_append_right _ (List.mem_singleton.mpr rfl)
        · trivial
      · cases stepped
    · cases stepped

/-- A transaction that fails leaves its row to be rolled back, and the dispatch tries
again or gives up. -/
theorem fail {index : Nat} {error : StepError}
    (stepped : system.fail policy index error = some system') :
    Sound policy system' := by
  simp only [ConsumptionSystem.fail] at stepped
  split at stepped
  · cases stepped
  · rename_i dispatch found
    have gone : dispatch.Trying →
        Sound policy
          ((system.setDispatch index (dispatch.failed policy error)).detach index
            dispatch.processedEvent .doomed) := by
      intro trying
      have failed := dispatch.failed_trying policy error
      apply detach
      exact sound.setDispatch found (dispatch.failed_continues policy error)
        failed.resolved (failed.lettered.mpr (sound.trying_letters found trying))
    split at stepped
    · rename_i begun
      cases stepped
      exact gone (Or.inr (Or.inl begun))
    · rename_i recorded
      cases stepped
      exact gone (Or.inr (Or.inr (Or.inl recorded)))
    · cases stepped

/-- The answer to a commit is lost; the row may be committed all the same. -/
theorem loseCommit {index : Nat} {error : StepError}
    (stepped : system.loseCommit policy index error = some system') :
    Sound policy system' := by
  simp only [ConsumptionSystem.loseCommit] at stepped
  split at stepped
  · cases stepped
  · rename_i dispatch found
    split at stepped
    · rename_i holder writes recorded holds
      split at stepped
      · rename_i own
        cases stepped
        subst own
        have failed := dispatch.failed_trying policy error
        have moved := sound.setDispatch found
          (dispatch.failed_continues policy error) failed.resolved
          (failed.lettered.mpr
            (sound.trying_letters found (Or.inr (Or.inr (Or.inl recorded)))))
        exact moved.rehold holds
      · cases stepped
    · cases stepped

/-- The database decides a transaction that nobody waits for any more. -/
theorem settle {processedEvent : ProcessedEvent} {committed : Bool}
    (stepped : system.settle processedEvent committed = some system') :
    Sound policy system' := by
  simp only [ConsumptionSystem.settle] at stepped
  split at stepped
  · rename_i dispatch writes holds
    cases stepped
    exact sound.apply holds writes
  · cases stepped
    exact sound.setHolder (by rintro held ⟨⟩)
  · cases stepped
    exact sound.setHolder (by rintro held ⟨⟩)
  · cases stepped

/-- A dispatch that is exhausted publishes its own dead letter. -/
theorem publishDlq {index : Nat}
    (stepped : system.publishDlq policy index = some system') :
    Sound policy system' := by
  simp only [ConsumptionSystem.publishDlq] at stepped
  split at stepped
  · cases stepped
  · rename_i dispatch found
    split at stepped
    · rename_i exhausted
      cases stepped
      have none := sound.trying_letters found
        (Or.inr (Or.inr (Or.inr exhausted)))
      apply sound.post _ found (dispatch.enter_continues _)
      · intro letter letterMem
        rw [List.mem_singleton.mp letterMem]
        rfl
      · trivial
      · rw [none]
        rfl
    · cases stepped

/-- A publication that fails may have reached the topic. -/
theorem failDlq {index : Nat} {reached : Bool}
    (stepped : system.failDlq policy index reached = some system') :
    Sound policy system' := by
  simp only [ConsumptionSystem.failDlq] at stepped
  split at stepped
  · cases stepped
  · rename_i dispatch found
    split at stepped
    · cases stepped
      apply sound.post _ found (dispatch.enter_continues _)
      · intro letter letterMem
        cases reached with
        | false => cases letterMem
        | true =>
            rw [List.mem_singleton.mp letterMem]
            rfl
      · trivial
      · trivial
    · cases stepped

/-- A crash leaves the row of a dispatch to be rolled back. -/
theorem crash {index : Nat}
    (stepped : system.crash index = some system') : Sound policy system' := by
  simp only [ConsumptionSystem.crash] at stepped
  split at stepped
  · cases stepped
  · rename_i dispatch found
    have crashed :
        Sound policy
          ((system.setDispatch index (dispatch.enter .crashed)).detach
            index dispatch.processedEvent .doomed) := by
      apply detach
      exact sound.setDispatch found (dispatch.enter_continues _) trivial trivial
    split at stepped
    · cases stepped
      exact crashed
    · cases stepped
      exact crashed
    · cases stepped
      exact crashed
    · cases stepped
      exact crashed
    · cases stepped

/-- Every action keeps it. -/
theorem step {action : ConsumptionAction Write}
    (stepped : step policy system action = some system') : Sound policy system' := by
  cases action with
  | deliver sourceTopic envelope consumer =>
      cases stepped
      exact sound.deliver sourceTopic envelope consumer
  | begin => exact sound.begin stepped
  | record => exact sound.record stepped
  | work => exact sound.work stepped
  | commit => exact sound.commit stepped
  | fail => exact sound.fail stepped
  | loseCommit => exact sound.loseCommit stepped
  | settle => exact sound.settle stepped
  | publishDlq => exact sound.publishDlq stepped
  | failDlq => exact sound.failDlq stepped
  | crash => exact sound.crash stepped

end Sound

theorem sound_of_reachable
    (reached : Reachable (step policy) unguarded initial system) :
    Sound policy system :=
  reached.invariant Sound.initial fun _ _ _ sound _ stepped => sound.step stepped

/-- A work that a dispatch committed belongs to the row of its key. -/
theorem Sound.committed (sound : Sound policy system) {index : Nat}
    {dispatch : Dispatch} (found : system.dispatches[index]? = some dispatch)
    {work : CommittedWork Write} (workMem : work ∈ system.works)
    (its : work.dispatch = index) :
    dispatch.processedEvent ∈ system.works.map CommittedWork.processedEvent := by
  rcases sound.worked work workMem with ⟨called, foundCalled, isFor⟩
  rw [its, found, Option.some.injEq] at foundCalled
  subst foundCalled
  rw [isFor]
  exact List.mem_map_of_mem workMem

/-! ## Effectively-once consumption -/

/-- Effects are committed at most once for an event and a consumer, and with the
row of both; a dispatch that returns left them committed, or published its
envelope, once, to the dead-letter topic and committed nothing. -/
theorem effectively_once
    (reached : Reachable (step policy) unguarded initial system) :
    (system.works.map CommittedWork.processedEvent).Nodup ∧
      system.works.map CommittedWork.processedEvent = system.processedEvents ∧
      (∀ work ∈ system.works, system.IsFor work.dispatch work.processedEvent) ∧
      ∀ (index : Nat) (dispatch : Dispatch) (outcome : DispatchOutcome),
        system.dispatches[index]? = some dispatch →
        dispatch.phase = .returned outcome →
        dispatch.processedEvent ∈
            system.works.map CommittedWork.processedEvent ∨
          (system.lettersOf index = [dispatch.deadLetter policy index] ∧
            ∀ work ∈ system.works, work.dispatch ≠ index) := by
  have sound := sound_of_reachable reached
  apply And.intro (sound.ledger ▸ sound.unique)
  apply And.intro sound.ledger
  apply And.intro sound.worked
  intro index dispatch outcome found returned
  have resolved := sound.resolved index dispatch found
  have lettered := sound.lettered index dispatch found
  unfold Dispatch.Resolved at resolved
  unfold Dispatch.Lettered at lettered
  rw [returned] at resolved lettered
  cases outcome with
  | processed =>
      apply Or.inl
      rw [sound.ledger]
      exact resolved
  | duplicate =>
      apply Or.inl
      rw [sound.ledger]
      exact resolved
  | deadLettered =>
      -- An attempt whose commit was reported as an error may have committed.
      by_cases committed : ∃ work ∈ system.works, work.dispatch = index
      · rcases committed with ⟨work, workMem, its⟩
        exact Or.inl (sound.committed found workMem its)
      · apply Or.inr
        apply And.intro lettered
        intro work workMem its
        exact committed ⟨work, workMem, its⟩

/-! ## A commit reported as an error -/

/-- A completed order's fact, as it is delivered to every consumer. -/
def completedDelivery : Envelope :=
  { eventId := ⟨.orders, 0⟩
    fact := .orderCompleted
      { orderReference := ⟨1⟩
        retailerCode := "RET-0001"
        companyCode := "COM-0001"
        currency := "EUR"
        totalAmount := 100 } }

/-- The first delivery's commit is reported as an error and happens all the same,
so its second attempt finds a duplicate; the second delivery, to another
consumer, fails twice and is dead-lettered. -/
def lostAcknowledgement : List (ConsumptionAction String) :=
  [ .deliver .orders completedDelivery .projector,
    .deliver .orders completedDelivery .notifications,
    .begin 0, .record 0, .work 0 ["completed"], .loseCommit 0 .other, .begin 0,
    .begin 1, .fail 1 .lock, .begin 1, .record 1, .fail 1 .other,
    .settle ⟨⟨.orders, 0⟩, .projector⟩ true, .record 0,
    .settle ⟨⟨.orders, 0⟩, .notifications⟩ false, .begin 1, .record 1,
    .work 1 ["mailed"], .fail 1 .other, .publishDlq 1 ]

/-- What is left of a run: how the dispatches ended, and the committed works. -/
def outcomeOf (system : ConsumptionSystem String) :
    List DispatchPhase × List (CommittedWork String) :=
  (system.dispatches.map Dispatch.phase, system.works)

theorem lost_acknowledgement_effectively_once :
    ∃ system,
      execute (step ⟨2⟩)
          (fun state action => decide (unguarded state action)) initial
          lostAcknowledgement =
        some system ∧
      outcomeOf system =
        ([.returned .duplicate, .returned .deadLettered],
          [⟨0, ⟨⟨.orders, 0⟩, .projector⟩, ["completed"]⟩]) ∧
      system.processedEvents = [⟨⟨.orders, 0⟩, .projector⟩] := by
  have runs : (execute (step ⟨2⟩)
      (fun state action => decide (unguarded state action)) initial
        lostAcknowledgement).map outcomeOf =
      some
        ([.returned .duplicate, .returned .deadLettered],
          [⟨0, ⟨⟨.orders, 0⟩, .projector⟩, ["completed"]⟩]) := by
    decide
  rcases Option.map_eq_some_iff.mp runs with ⟨system, ran, outcome⟩
  have once := effectively_once (reachable_of_execute ran)
  apply Exists.intro system
  apply And.intro ran
  apply And.intro outcome
  rw [← once.2.1, (Prod.mk.inj outcome).2]
  rfl

end ConsumptionSystem

end OrderToCash.Messaging
