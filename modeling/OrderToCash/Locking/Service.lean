import OrderToCash.Locking.Threads
import OrderToCash.Transition.Run

/-!
# A service whose transactions run lock by lock

The plain service runs the transaction of a call in one action.  Here a call's
transaction is opened, takes its locks one after the other, and commits, while
those of other calls do the same.  One that waits too long is rolled back and
opened again, a bounded number of times.  If a transaction changes only what it
holds, every run is one of the plain service; if all of them lock in ascending
order, all that are open can be carried to their end.
-/

namespace OrderToCash.Locking

open OrderToCash.Transition

universe u v w x y

variable {κ : Type u} {ν : κ → Type v} {σ : Type w} {α : Type x} {S A C D : Type y}

/-- What an action of the plain service does with the calls under way. -/
inductive Kind
  | receives
  | takesUp (index : Nat)
  | transacts

/-- A plain service, with the transactions that its calls open and what becomes
of it when one of them has published. -/
structure Service (ν : κ → Type v) (σ : Type w) (α : Type x) (S A C D : Type y) where
  next : Step S A
  kind : A → Kind
  db : S → σ
  calls : S → List C
  read : σ → (resource : κ) → ν resource
  opens : S → C → D → Option (Program ν σ α)
  conclude : S → Nat → C → σ × α → S
  maxAttempts : Nat

/-- The service with the transaction each call has open, and how often each has
been tried. -/
structure Session (ν : κ → Type v) (σ : Type w) (α : Type x) (S : Type y) where
  system : S
  threads : List (Option (Thread ν σ α))
  attempts : List Nat

inductive LockAction (A D : Type y)
  /-- An action of the service that is no transaction. -/
  | outside (action : A)
  /-- Open the transaction of a call, with what it draws. -/
  | opening (index : Nat) (draw : D)
  /-- Take the next lock of a transaction. -/
  | acquire (index : Nat)
  /-- Commit a transaction that has all its locks. -/
  | commit (index : Nat)
  /-- Roll a transaction back that is to be tried again. -/
  | rollBack (index : Nat)
deriving DecidableEq, Repr

/-- A transaction goes on, by its next lock or to its end. -/
def LockAction.Advances : LockAction A D → Prop
  | .acquire _ | .commit _ => True
  | .outside _ | .opening _ _ | .rollBack _ => False

namespace Session

def start (system : S) : Session ν σ α S := ⟨system, [], []⟩

/-- Calls that came in have no transaction open. -/
def padded (session : Session ν σ α S) (system : S) (count : Nat) : Session ν σ α S :=
  { system := system
    threads :=
      session.threads ++ List.replicate (count - session.threads.length) none
    attempts :=
      session.attempts ++ List.replicate (count - session.attempts.length) 0 }

/-- Take a call off, with the transaction it has open. -/
def dropped (session : Session ν σ α S) (system : S) (index : Nat) :
    Session ν σ α S :=
  { system := system
    threads := session.threads.eraseIdx index
    attempts := session.attempts.eraseIdx index }

end Session

namespace Service

variable (service : Service ν σ α S A C D)

def outside (session : Session ν σ α S) (action : A) (system : S) :
    Option (Session ν σ α S) :=
  match service.kind action with
  | .receives => some (session.padded system (service.calls system).length)
  | .takesUp index =>
      some ((session.dropped system index).padded system (service.calls system).length)
  | .transacts => none

def opening (session : Session ν σ α S) (index : Nat) (draw : D) :
    Option (Session ν σ α S) :=
  match (service.calls session.system)[index]?, session.threads[index]?,
      session.attempts[index]? with
  | some call, some none, some tried =>
      if tried < service.maxAttempts then
        (service.opens session.system call draw).map fun program =>
          { session with
            threads := session.threads.set index (some (.opened program))
            attempts := session.attempts.set index (tried + 1) }
      else none
  | _, _, _ => none

def commit (session : Session ν σ α S) (index : Nat) : Option (Session ν σ α S) :=
  match (service.calls session.system)[index]?, effectOf session.threads index with
  | some call, some effect =>
      some (session.dropped (service.conclude session.system index call
        (effect (service.db session.system))) index)
  | _, _ => none

def rollBack (session : Session ν σ α S) (index : Nat) : Option (Session ν σ α S) :=
  match session.threads[index]?, session.attempts[index]? with
  | some (some _), some tried =>
      if tried < service.maxAttempts then
        some { session with threads := session.threads.set index none }
      else none
  | _, _ => none

/-- One action of the service lock by lock. -/
def lockStep [DecidableEq κ] : Step (Session ν σ α S) (LockAction A D)
  | session, .outside action =>
      (service.next session.system action).bind (service.outside session action)
  | session, .opening index draw => service.opening session index draw
  | session, .acquire index =>
      (acquire service.read (service.db session.system) session.threads index).map
        fun threads => { session with threads := threads }
  | session, .commit index => service.commit session index
  | session, .rollBack index => service.rollBack session index

/-! ## What a service has to be for this -/

/-- In a sound state, a transaction that a call has opened runs on its own as the
plain service runs it, and changes only what it has locked. -/
structure Serializable (Sound : S → Prop)
    (Opened : S → C → Program ν σ α → Prop) : Prop where
  sound : ∀ system action system', Sound system →
    service.next system action = some system' → Sound system'
  stays : ∀ system action system' call program, Sound system →
    service.next system action = some system' → Opened system call program →
      Opened system' call program
  receives : ∀ system action system', service.kind action = .receives →
    service.next system action = some system' →
      service.db system' = service.db system ∧
        ∃ more, service.calls system' = service.calls system ++ more
  takesUp : ∀ system action system' index, service.kind action = .takesUp index →
    service.next system action = some system' →
      service.db system' = service.db system ∧
        ∃ more, service.calls system' = (service.calls system).eraseIdx index ++ more
  concludes : ∀ system index call result,
    service.db (service.conclude system index call result) = result.1 ∧
      service.calls (service.conclude system index call result) =
        (service.calls system).eraseIdx index
  opened : ∀ system call draw program, Sound system → call ∈ service.calls system →
    service.opens system call draw = some program → Opened system call program
  runs : ∀ system index call program, Sound system →
    (service.calls system)[index]? = some call → Opened system call program →
      ∃ action, service.next system action =
        some (service.conclude system index call
          (program.run service.read (service.db system)))
  within : ∀ system call program held effect, Sound system →
    Opened system call program →
      Follows service.read (service.db system) program held (.publish effect) →
        ∀ resource ∉ held, service.read (effect (service.db system)).1 resource =
          service.read (service.db system) resource

/-- In a sound state, a transaction that a call has opened locks in ascending
order. -/
def LocksInOrder {ρ : Type y} [LT ρ] (rank : κ → ρ) (Sound : S → Prop)
    (Opened : S → C → Program ν σ α → Prop) : Prop :=
  ∀ system call program, Sound system → Opened system call program →
    program.Ascends rank []

/-- Each open transaction is one of the call it stands at. -/
def Aligned (Opened : C → Program ν σ α → Prop) (calls : List C)
    (threads : List (Option (Thread ν σ α))) : Prop :=
  threads.length = calls.length ∧
    ∀ (index : Nat) thread, threads[index]? = some (some thread) →
      ∃ call, calls[index]? = some call ∧ Opened call thread.program

/-- What holds of the transactions that are open. -/
structure Kept (Sound : S → Prop) (Opened : S → C → Program ν σ α → Prop)
    (session : Session ν σ α S) : Prop where
  sound : Sound session.system
  aligned : Aligned (Opened session.system) (service.calls session.system)
    session.threads
  locked : Locked service.read (service.db session.system) session.threads

end Service

/-! ## Transactions and their calls -/

namespace Service.Aligned

variable {Opened Opened' : C → Program ν σ α → Prop} {calls : List C}
  {threads : List (Option (Thread ν σ α))}

theorem mono (aligned : Aligned Opened calls threads)
    (implies : ∀ call program, Opened call program → Opened' call program) :
    Aligned Opened' calls threads := by
  constructor
  · exact aligned.1
  · intro index thread found
    rcases aligned.2 index thread found with ⟨call, isCall, opened⟩
    exact ⟨call, isCall, implies call thread.program opened⟩

theorem eraseIdx (aligned : Aligned Opened calls threads) (index : Nat) :
    Aligned Opened (calls.eraseIdx index) (threads.eraseIdx index) := by
  constructor
  · rw [List.length_eraseIdx, List.length_eraseIdx, aligned.1]
  · intro other thread found
    rw [List.getElem?_eraseIdx] at found ⊢
    split at found
    · rename_i before
      rw [if_pos before]
      exact aligned.2 other thread found
    · rename_i notBefore
      rw [if_neg notBefore]
      exact aligned.2 (other + 1) thread found

theorem append (aligned : Aligned Opened calls threads) (more : List C) :
    Aligned Opened (calls ++ more)
      (threads ++ List.replicate ((calls ++ more).length - threads.length) none) := by
  constructor
  · rw [List.length_append, List.length_replicate, List.length_append, aligned.1]
    omega
  · intro index thread found
    rcases Nat.lt_or_ge index threads.length with inside | outside
    · rw [List.getElem?_append_left inside] at found
      rw [List.getElem?_append_left (aligned.1 ▸ inside)]
      exact aligned.2 index thread found
    · rw [List.getElem?_append_right outside, List.getElem?_replicate] at found
      split at found
      · cases found
      · cases found

theorem set (aligned : Aligned Opened calls threads) {index : Nat} {call : C}
    (found : calls[index]? = some call) {slot : Option (Thread ν σ α)}
    (opened : ∀ thread ∈ slot, Opened call thread.program) :
    Aligned Opened calls (threads.set index slot) := by
  constructor
  · rw [List.length_set, aligned.1]
  · intro other thread isThread
    rw [List.getElem?_set] at isThread
    split at isThread
    · rename_i same
      subst same
      split at isThread
      · rw [Option.some.injEq] at isThread
        exact ⟨call, found, opened thread isThread⟩
      · cases isThread
    · exact aligned.2 other thread isThread

end Service.Aligned

/-! ## Every action keeps them apart -/

namespace Service

variable {service : Service ν σ α S A C D} {Sound : S → Prop}
  {Opened : S → C → Program ν σ α → Prop} {session session' : Session ν σ α S}

/-- What another action of the service does to the calls leaves the transactions
that stay as they were. -/
theorem Kept.padded {system' : S} {calls more : List C}
    {threads : List (Option (Thread ν σ α))} {attempts : List Nat}
    (sound : Sound system')
    (aligned : Aligned (Opened system') calls threads)
    (locked : Locked service.read (service.db system') threads)
    (isCalls : service.calls system' = calls ++ more) (before : S) :
    service.Kept Sound Opened
      ((⟨before, threads, attempts⟩ : Session ν σ α S).padded system'
        (service.calls system').length) where
  sound := sound
  aligned := by
    have whole := aligned.append more
    rw [← isCalls] at whole
    exact whole
  locked := locked.appended _

theorem outside_eq_some {action : A} {system : S} :
    service.outside session action system = some session' ↔
      (service.kind action = .receives ∧
        session' = session.padded system (service.calls system).length) ∨
      ∃ index, service.kind action = .takesUp index ∧
        session' =
          (session.dropped system index).padded system (service.calls system).length := by
  simp only [outside]
  cases service.kind action with
  | receives => simp [eq_comm]
  | takesUp index => simp [eq_comm]
  | transacts => simp

theorem opening_eq_some {index : Nat} {draw : D} :
    service.opening session index draw = some session' ↔
      ∃ call tried program, (service.calls session.system)[index]? = some call ∧
        session.threads[index]? = some none ∧ session.attempts[index]? = some tried ∧
          tried < service.maxAttempts ∧
            service.opens session.system call draw = some program ∧
              session' =
                { session with
                  threads := session.threads.set index (some (.opened program))
                  attempts := session.attempts.set index (tried + 1) } := by
  unfold opening
  split
  · rename_i call tried isCall isIdle isTried
    simp only [Option.ite_none_right_eq_some, Option.map_eq_some_iff, isCall, isIdle,
      isTried, Option.some.injEq]
    constructor
    · rintro ⟨allowed, program, opens, rfl⟩
      exact ⟨call, tried, program, rfl, trivial, rfl, allowed, opens, rfl⟩
    · rintro ⟨_, _, program, rfl, _, rfl, allowed, opens, rfl⟩
      exact ⟨allowed, program, opens, rfl⟩
  · rename_i notIdle
    constructor
    · intro absurdity
      cases absurdity
    · rintro ⟨call, tried, program, isCall, isIdle, isTried, _⟩
      exact absurd isTried (notIdle call tried isCall isIdle)

theorem commit_eq_some {index : Nat} :
    service.commit session index = some session' ↔
      ∃ call effect, (service.calls session.system)[index]? = some call ∧
        effectOf session.threads index = some effect ∧
          session' = session.dropped (service.conclude session.system index call
            (effect (service.db session.system))) index := by
  unfold commit
  split
  · rename_i call effect isCall isEffect
    simp only [isCall, isEffect, Option.some.injEq]
    constructor
    · rintro rfl
      exact ⟨call, effect, rfl, rfl, rfl⟩
    · rintro ⟨_, _, rfl, rfl, rfl⟩
      rfl
  · rename_i notReady
    constructor
    · intro absurdity
      cases absurdity
    · rintro ⟨call, effect, isCall, isEffect, _⟩
      exact absurd isEffect (notReady call effect isCall)

theorem rollBack_eq_some {index : Nat} :
    service.rollBack session index = some session' ↔
      ∃ thread tried, session.threads[index]? = some (some thread) ∧
        session.attempts[index]? = some tried ∧ tried < service.maxAttempts ∧
          session' = { session with threads := session.threads.set index none } := by
  unfold rollBack
  split
  · rename_i thread tried isOpen isTried
    simp only [Option.ite_none_right_eq_some, isOpen, isTried, Option.some.injEq]
    constructor
    · rintro ⟨allowed, rfl⟩
      exact ⟨thread, tried, rfl, rfl, allowed, rfl⟩
    · rintro ⟨_, _, _, rfl, allowed, rfl⟩
      exact ⟨allowed, rfl⟩
  · rename_i notOpen
    constructor
    · intro absurdity
      cases absurdity
    · rintro ⟨thread, tried, isOpen, isTried, _⟩
      exact absurd isTried (notOpen thread tried isOpen)

section Runs

variable (laws : service.Serializable Sound Opened)
include laws

/-- What commits is what the plain service does at that moment. -/
theorem Kept.committed (kept : service.Kept Sound Opened session) {index : Nat}
    (committed : service.commit session index = some session') :
    service.Kept Sound Opened session' ∧
      ∃ action, service.next session.system action = some session'.system := by
  rcases commit_eq_some.mp committed with ⟨call, effect, isCall, isEffect, rfl⟩
  rcases effectOf_eq_some.mp isEffect with ⟨program, held, found⟩
  rcases kept.aligned.2 index _ found with ⟨other, isOther, opened⟩
  rw [isCall, Option.some.injEq] at isOther
  subst isOther
  have follows := kept.locked.follows index _ found
  have runs : program.run service.read (service.db session.system) =
      effect (service.db session.system) := follows.run_eq
  rcases laws.runs session.system index call program kept.sound isCall opened with
    ⟨action, stepped⟩
  rw [runs] at stepped
  have concludes := laws.concludes session.system index call
    (effect (service.db session.system))
  refine ⟨?_, action, stepped⟩
  exact
    { sound := laws.sound _ _ _ kept.sound stepped
      aligned := by
        have stay := (kept.aligned.eraseIdx index).mono fun call program =>
          laws.stays _ _ _ call program kept.sound stepped
        rw [← concludes.2] at stay
        exact stay
      locked := by
        apply kept.locked.published found
        intro resource notHeld
        change service.read (service.db (service.conclude _ _ _ _)) resource = _
        rw [concludes.1]
        exact laws.within _ call program held effect kept.sound opened follows resource
          notHeld }

variable [DecidableEq κ]

/-- Every action keeps the transactions apart, and does what the plain service
does or nothing to it. -/
theorem Kept.lockStep (kept : service.Kept Sound Opened session)
    {action : LockAction A D} (stepped : service.lockStep session action = some session') :
    service.Kept Sound Opened session' ∧
      (session'.system = session.system ∨
        ∃ plain, service.next session.system plain = some session'.system) := by
  cases action with
  | outside action =>
      simp only [Service.lockStep, Option.bind_eq_some_iff] at stepped
      rcases stepped with ⟨system, plain, followed⟩
      have stay := fun call program =>
        laws.stays _ _ _ call program kept.sound plain
      have sound := laws.sound _ _ _ kept.sound plain
      rcases outside_eq_some.mp followed with ⟨isKind, rfl⟩ | ⟨index, isKind, rfl⟩
      · rcases laws.receives _ _ _ isKind plain with ⟨sameDb, more, isCalls⟩
        refine ⟨?_, Or.inr ⟨action, plain⟩⟩
        apply Kept.padded sound (kept.aligned.mono stay) _ isCalls
        rw [sameDb]
        exact kept.locked
      · rcases laws.takesUp _ _ _ index isKind plain with ⟨sameDb, more, isCalls⟩
        refine ⟨?_, Or.inr ⟨action, plain⟩⟩
        apply Kept.padded sound ((kept.aligned.eraseIdx index).mono stay) _ isCalls
        rw [sameDb]
        exact kept.locked.erased index
  | opening index draw =>
      rcases opening_eq_some.mp stepped with
        ⟨call, tried, program, isCall, _, _, _, opens, rfl⟩
      have opened := laws.opened _ call draw program kept.sound
        (List.mem_of_getElem? isCall) opens
      refine ⟨⟨kept.sound, ?_, kept.locked.opened program⟩, Or.inl rfl⟩
      apply kept.aligned.set isCall
      rintro thread isThread
      cases isThread
      exact opened
  | acquire index =>
      simp only [Service.lockStep, Option.map_eq_some_iff] at stepped
      rcases stepped with ⟨threads, taken, rfl⟩
      refine ⟨⟨kept.sound, ?_, kept.locked.acquired taken⟩, Or.inl rfl⟩
      rcases (acquire_eq_some service.read).mp taken with
        ⟨program, held, resource, next, found, _, rfl⟩
      rcases kept.aligned.2 index _ found with ⟨call, isCall, opened⟩
      apply kept.aligned.set isCall
      rintro thread isThread
      cases isThread
      exact opened
  | commit index =>
      rcases kept.committed laws stepped with ⟨kept', plain⟩
      exact ⟨kept', Or.inr plain⟩
  | rollBack index =>
      rcases rollBack_eq_some.mp stepped with ⟨thread, _, found, _, _, rfl⟩
      rcases kept.aligned.2 index _ found with ⟨call, isCall, _⟩
      refine ⟨⟨kept.sound, ?_, kept.locked.rolledBack index⟩, Or.inl rfl⟩
      apply kept.aligned.set isCall
      rintro thread isThread
      cases isThread

/-- Whatever locks are taken in whatever order, the service does what the plain
one does. -/
theorem Kept.reachable {start : S} (kept : service.Kept Sound Opened session)
    (plain : Reachable service.next unguarded start session.system)
    (path : Reachable service.lockStep unguarded session session') :
    service.Kept Sound Opened session' ∧
      Reachable service.next unguarded start session'.system := by
  induction path with
  | refl => exact ⟨kept, plain⟩
  | tail path _ stepped inductionHypothesis =>
      rcases inductionHypothesis with ⟨keptBefore, plainBefore⟩
      rcases keptBefore.lockStep laws stepped with ⟨keptAfter, same | ⟨action, plainStep⟩⟩
      · rw [same]
        exact ⟨keptAfter, plainBefore⟩
      · exact ⟨keptAfter, plainBefore.tail trivial plainStep⟩

end Runs

/-! ## Every open transaction can be carried to its end -/

/-- The calls that have no transaction open. -/
def idleCalls : List C → List (Option (Thread ν σ α)) → List C
  | call :: calls, none :: threads => call :: idleCalls calls threads
  | _ :: calls, some _ :: threads => idleCalls calls threads
  | _, _ => []

theorem idleCalls_set {threads : List (Option (Thread ν σ α))} {index : Nat}
    {thread : Thread ν σ α} (found : threads[index]? = some (some thread))
    (calls : List C) (other : Thread ν σ α) :
    idleCalls calls (threads.set index (some other)) = idleCalls calls threads := by
  induction threads generalizing calls index with
  | nil => cases found
  | cons slot rest inductionHypothesis =>
      cases calls with
      | nil => cases index <;> rfl
      | cons call calls =>
          cases index with
          | zero =>
              cases found
              rfl
          | succ index =>
              have same := inductionHypothesis found calls
              cases slot with
              | none => simp only [List.set_cons_succ, idleCalls, same]
              | some own => simp only [List.set_cons_succ, idleCalls, same]

theorem idleCalls_eraseIdx {threads : List (Option (Thread ν σ α))} {index : Nat}
    {thread : Thread ν σ α} (found : threads[index]? = some (some thread))
    (calls : List C) :
    idleCalls (calls.eraseIdx index) (threads.eraseIdx index) =
      idleCalls calls threads := by
  induction threads generalizing calls index with
  | nil => cases found
  | cons slot rest inductionHypothesis =>
      cases calls with
      | nil => simp only [List.eraseIdx_nil, idleCalls]
      | cons call calls =>
          cases index with
          | zero =>
              cases found
              rfl
          | succ index =>
              have same := inductionHypothesis found calls
              cases slot with
              | none => simp only [List.eraseIdx_cons_succ, idleCalls, same]
              | some own => simp only [List.eraseIdx_cons_succ, idleCalls, same]

theorem idleCalls_eq_self {threads : List (Option (Thread ν σ α))} {calls : List C}
    (sameLength : threads.length = calls.length)
    (closed : ∀ slot ∈ threads, slot = none) : idleCalls calls threads = calls := by
  induction threads generalizing calls with
  | nil =>
      cases List.length_eq_zero_iff.mp sameLength.symm
      rfl
  | cons slot rest inductionHypothesis =>
      cases calls with
      | nil => cases sameLength
      | cons call calls =>
          cases closed slot List.mem_cons_self
          simp only [List.length_cons, Nat.add_right_cancel_iff] at sameLength
          rw [idleCalls, inductionHypothesis sameLength fun other otherMem =>
            closed other (List.mem_cons_of_mem _ otherMem)]

variable {ρ : Type y} [LinearOrder ρ] {rank : κ → ρ}

/-- The transactions that are open lock in ascending order from here on, if they
do so from their beginning. -/
theorem Kept.ascending (kept : service.Kept Sound Opened session)
    (inOrder : LocksInOrder rank Sound Opened) : Ascending rank session.threads := by
  apply kept.locked.ascending
  rintro slot slotMem thread ⟨⟩
  rcases List.mem_iff_getElem?.mp slotMem with ⟨index, found⟩
  rcases kept.aligned.2 index thread found with ⟨call, _, opened⟩
  exact inOrder _ call thread.program kept.sound opened

variable [DecidableEq κ]

/-- An advance is one of the service, and takes up no call that is idle. -/
theorem Kept.exists_advance (laws : service.Serializable Sound Opened)
    (inOrder : LocksInOrder rank Sound Opened)
    (kept : service.Kept Sound Opened session) {thread : Thread ν σ α}
    (underWay : some thread ∈ session.threads) :
    ∃ action session', action.Advances ∧
      service.lockStep session action = some session' ∧
      idleCalls (service.calls session'.system) session'.threads =
        idleCalls (service.calls session.system) session.threads ∧
      Advance service.read (service.db session.system, session.threads)
        (service.db session'.system, session'.threads) := by
  have canAdvance : ∃ index,
      (acquire service.read (service.db session.system) session.threads index).isSome ∨
        (effectOf session.threads index).isSome :=
    exists_advancing (kept.ascending inOrder) underWay
  rcases canAdvance with ⟨index, advancing | ready⟩
  · rcases Option.isSome_iff_exists.mp advancing with ⟨threads, taken⟩
    refine ⟨.acquire index, { session with threads := threads }, trivial, ?_, ?_,
      .acquired index taken⟩
    · rw [Service.lockStep, taken]
      rfl
    · rcases (acquire_eq_some service.read).mp taken with
        ⟨program, held, resource, next, found, _, rfl⟩
      exact idleCalls_set found _ _
  · rcases Option.isSome_iff_exists.mp ready with ⟨effect, isEffect⟩
    rcases effectOf_eq_some.mp isEffect with ⟨program, held, found⟩
    rcases kept.aligned.2 index _ found with ⟨call, isCall, _⟩
    have concludes := laws.concludes session.system index call
      (effect (service.db session.system))
    refine ⟨.commit index, _, trivial,
      commit_eq_some.mpr ⟨call, effect, isCall, isEffect, rfl⟩, ?_, ?_⟩
    · change idleCalls (service.calls (service.conclude _ _ _ _)) _ = _
      rw [concludes.2]
      exact idleCalls_eraseIdx found _
    · change Advance _ _ (service.db (service.conclude _ _ _ _), _)
      rw [concludes.1]
      exact .published index isEffect

/-- Whatever is open, where transactions lock in ascending order, locks and commits
alone bring every open one to its end, and leave the other calls where they are. -/
theorem Kept.exists_concluded (laws : service.Serializable Sound Opened)
    (inOrder : LocksInOrder rank Sound Opened) (kept : service.Kept Sound Opened session) :
    ∃ session', Reachable service.lockStep (fun _ action => action.Advances) session
        session' ∧
      service.calls session'.system =
        idleCalls (service.calls session.system) session.threads ∧
      ∀ slot ∈ session'.threads, slot = none := by
  let idle := fun session : Session ν σ α S =>
    idleCalls (service.calls session.system) session.threads
  let Moves := fun before after : Session ν σ α S =>
    ∃ action : LockAction A D, action.Advances ∧ service.lockStep before action = some after
  have drained : ∃ session', Relation.ReflTransGen Moves session session' ∧
      (service.Kept Sound Opened session' ∧ idle session' = idle session) ∧
        ∀ slot ∈ session'.threads, slot = none := by
    apply exists_drained fun other : Session ν σ α S =>
      (service.db other.system, other.threads)
    · rintro other ⟨kept, sameIdle⟩ ⟨thread, underWay⟩
      rcases kept.exists_advance laws inOrder underWay with
        ⟨action, after, advances, stepped, stillIdle, advance⟩
      exact ⟨after, ⟨action, advances, stepped⟩,
        ⟨(kept.lockStep laws stepped).1, stillIdle.trans sameIdle⟩, advance⟩
    · exact ⟨kept, rfl⟩
  rcases drained with ⟨session', moves, ⟨kept', sameIdle⟩, closed⟩
  refine ⟨session', .of_moves moves, ?_, closed⟩
  rw [← idleCalls_eq_self kept'.aligned.1 closed]
  exact sameIdle

/-! ## Every open transaction is answered -/

section Answers

variable {Q : Type y} {request : C → Q} {answered : S → List Q}
  (answers : ∀ system index call result,
    answered (service.conclude system index call result) =
      answered system ++ [request call])
include answers

omit [DecidableEq κ] in
/-- A commit answers the request it takes up and no other one. -/
theorem perm_of_commit (laws : service.Serializable Sound Opened) {index : Nat}
    (committed : service.commit session index = some session') :
    (answered session'.system ++ (service.calls session'.system).map request).Perm
      (answered session.system ++ (service.calls session.system).map request) := by
  rcases commit_eq_some.mp committed with ⟨call, effect, isCall, _, rfl⟩
  have concludes := laws.concludes session.system index call
    (effect (service.db session.system))
  rcases List.getElem?_eq_some_iff.mp isCall with ⟨inside, isAt⟩
  have taken : (request call ::
      ((service.calls session.system).eraseIdx index).map request).Perm
        ((service.calls session.system).map request) := by
    rw [← List.map_cons, ← isAt]
    exact (List.getElem_cons_eraseIdx_perm inside).map _
  change (answered (service.conclude _ _ _ _) ++
    (service.calls (service.conclude _ _ _ _)).map request).Perm _
  rw [answers, concludes.2, List.append_assoc, List.singleton_append]
  exact taken.append_left _

/-- Advances lose no request and answer none twice. -/
theorem perm_of_advances (laws : service.Serializable Sound Opened)
    (advances : Reachable service.lockStep (fun _ action => action.Advances) session
      session') :
    (answered session'.system ++ (service.calls session'.system).map request).Perm
      (answered session.system ++ (service.calls session.system).map request) := by
  induction advances with
  | refl => exact List.Perm.refl _
  | @tail before after action _ admitted stepped inductionHypothesis =>
      apply List.Perm.trans _ inductionHypothesis
      cases action with
      | outside action => cases admitted
      | opening index draw => cases admitted
      | rollBack index => cases admitted
      | acquire index =>
          rcases Option.map_eq_some_iff.mp stepped with ⟨threads, _, rfl⟩
          exact List.Perm.refl _
      | commit index => exact perm_of_commit answers laws stepped

end Answers

end Service

end OrderToCash.Locking
