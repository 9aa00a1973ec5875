import Mathlib.Data.List.Basic
import Mathlib.Data.List.Pairwise

/-!
# Inboxes

A log is read by someone who understands some of its entries and consumes the
entries one by one, each once and in any order.  An inbox says what is still
waiting and what is done.  It also keeps two promises of those who write the
log: a kind of entry that is not repeatable is logged once, and an entry is
logged after every entry that precedes it.
-/

namespace OrderToCash.Log

universe u v

/-- Not both entries are such. -/
def NotBoth {ε : Type u} (such : ε → Prop) (first second : ε) : Prop :=
  ¬ (such first ∧ such second)

instance {ε : Type u} (such : ε → Prop) : Std.Symm (NotBoth such) where
  symm _ _ differ both := differ both.symm

/-- Of a log, one entry is such. -/
theorem eq_of_pairwise_notBoth {ε : Type u} {such : ε → Prop} {log : List ε}
    (apart : log.Pairwise (NotBoth such)) {first second : ε} (firstMem : first ∈ log)
    (secondMem : second ∈ log) (isFirst : such first) (isSecond : such second) :
    first = second := by
  by_contra differ
  exact apart.forall firstMem secondMem differ ⟨isFirst, isSecond⟩

/-- How a log is read, and what its writers promise. -/
structure Reading (ε : Type u) (α : Type v) where
  read : ε → Option α
  repeatable : α → Prop
  precedes : α → α → Prop

variable {ε : Type u} {α : Type v}

/-- The log has the entry at the position. -/
def Reading.At (reading : Reading ε α) (log : List ε) (a : α) (position : Nat) :
    Prop :=
  ∃ entry, log[position]? = some entry ∧ reading.read entry = some a

/-- What a reader who owns some kinds of entries has waiting and has done. -/
structure Inbox (reading : Reading ε α) (own : α → Prop) (log : List ε)
    (consumed : Nat → Prop) (waiting done : α → Prop) : Prop where
  owned : ∀ a position, reading.At log a position → own a
  waiting_iff : ∀ a, own a →
    (waiting a ↔ ∃ position, reading.At log a position ∧ ¬ consumed position)
  done_iff : ∀ a, own a →
    (done a ↔ ∃ position, reading.At log a position ∧ consumed position)
  unique : ∀ a, ¬ reading.repeatable a → ∀ first second,
    reading.At log a first → reading.At log a second → first = second
  ordered : ∀ a b, reading.precedes a b → ∀ first second,
    reading.At log a first → reading.At log b second → first < second
  bounded : ∀ position, consumed position → position < log.length

namespace Reading

variable {reading : Reading ε α} {log : List ε} {a : α} {position : Nat}

theorem At.lt_length (isAt : reading.At log a position) : position < log.length := by
  rcases isAt with ⟨entry, found, _⟩
  exact (List.getElem?_eq_some_iff.mp found).1

/-- An entry appended to a log is at its end. -/
theorem at_concat_iff {entry : ε} :
    reading.At (log ++ [entry]) a position ↔
      reading.At log a position ∨
        position = log.length ∧ reading.read entry = some a := by
  constructor
  · rintro ⟨other, found, reads⟩
    by_cases old : position < log.length
    · rw [List.getElem?_append_left old] at found
      exact Or.inl ⟨other, found, reads⟩
    · have atEnd := (List.getElem?_eq_some_iff.mp found).1
      rw [List.length_append, List.length_singleton] at atEnd
      have isEnd : position = log.length := by omega
      subst isEnd
      rw [List.getElem?_concat_length, Option.some.injEq] at found
      exact Or.inr ⟨rfl, found ▸ reads⟩
  · rintro (isAt | ⟨rfl, reads⟩)
    · rcases isAt with ⟨other, found, reads⟩
      have old := (List.getElem?_eq_some_iff.mp found).1
      exact ⟨other, (List.getElem?_append_left old).trans found, reads⟩
    · exact ⟨entry, List.getElem?_concat_length, reads⟩

theorem not_at_nil : ¬ reading.At [] a position := by
  rintro ⟨entry, found, _⟩
  cases found

end Reading

/-- Entries of these kinds may be logged next, one after the other. -/
def MayLog (reading : Reading ε α) (own : α → Prop) (done : α → Prop) :
    (α → Prop) → List α → Prop
  | _, [] => True
  | waiting, a :: rest =>
      own a ∧ (¬ reading.repeatable a → ¬ waiting a ∧ ¬ done a) ∧
        (∀ b, reading.precedes a b → b ≠ a ∧ ¬ waiting b ∧ ¬ done b) ∧
          MayLog reading own done (fun b => b = a ∨ waiting b) rest

namespace Inbox

variable {reading : Reading ε α} {own : α → Prop} {log : List ε}
  {consumed : Nat → Prop} {waiting done : α → Prop}

theorem nil : Inbox reading own [] (fun _ => False) (fun _ => False)
    (fun _ => False) where
  owned := fun _ _ isAt => absurd isAt Reading.not_at_nil
  waiting_iff := by
    rintro a _
    constructor
    · rintro ⟨⟩
    · rintro ⟨position, isAt, _⟩
      exact Reading.not_at_nil isAt
  done_iff := by
    rintro a _
    constructor
    · rintro ⟨⟩
    · rintro ⟨position, _, absurdity⟩
      exact absurdity
  unique := fun _ _ _ _ isAt => absurd isAt Reading.not_at_nil
  ordered := fun _ _ _ _ _ isAt => absurd isAt Reading.not_at_nil
  bounded := fun _ absurdity => absurdity.elim

/-- An inbox depends on the waiting and the done entries only. -/
theorem congr (inbox : Inbox reading own log consumed waiting done)
    {waiting' done' : α → Prop} (sameWaiting : ∀ a, own a → (waiting' a ↔ waiting a))
    (sameDone : ∀ a, own a → (done' a ↔ done a)) :
    Inbox reading own log consumed waiting' done' where
  owned := inbox.owned
  waiting_iff := fun a owns => (sameWaiting a owns).trans (inbox.waiting_iff a owns)
  done_iff := fun a owns => (sameDone a owns).trans (inbox.done_iff a owns)
  unique := inbox.unique
  ordered := inbox.ordered
  bounded := inbox.bounded

/-- What is waiting or done is in the log. -/
theorem at_of_logged (inbox : Inbox reading own log consumed waiting done) {a : α}
    (owns : own a) :
    (∃ position, reading.At log a position) ↔ waiting a ∨ done a := by
  rw [inbox.waiting_iff a owns, inbox.done_iff a owns]
  constructor
  · rintro ⟨position, isAt⟩
    by_cases isConsumed : consumed position
    · exact Or.inr ⟨position, isAt, isConsumed⟩
    · exact Or.inl ⟨position, isAt, isConsumed⟩
  · rintro (⟨position, isAt, _⟩ | ⟨position, isAt, _⟩)
    · exact ⟨position, isAt⟩
    · exact ⟨position, isAt⟩

/-- An entry that is not repeatable is read once of the log. -/
theorem pairwise_once (inbox : Inbox reading own log consumed waiting done) {a : α}
    (once : ¬ reading.repeatable a) :
    log.Pairwise (NotBoth fun entry => reading.read entry = some a) := by
  rw [List.pairwise_iff_getElem]
  rintro first second firstBound secondBound before ⟨readsFirst, readsSecond⟩
  have same := inbox.unique a once first second
    ⟨_, List.getElem?_eq_getElem firstBound, readsFirst⟩
    ⟨_, List.getElem?_eq_getElem secondBound, readsSecond⟩
  omega

/-- An entry that is not read changes nothing. -/
theorem unread (inbox : Inbox reading own log consumed waiting done) {entry : ε}
    (notRead : reading.read entry = none) :
    Inbox reading own (log ++ [entry]) consumed waiting done := by
  have same : ∀ a position,
      reading.At (log ++ [entry]) a position ↔ reading.At log a position := by
    intro a position
    rw [Reading.at_concat_iff, notRead]
    simp
  constructor
  · intro a position isAt
    exact inbox.owned a position ((same a position).mp isAt)
  · intro a owns
    simp only [same]
    exact inbox.waiting_iff a owns
  · intro a owns
    simp only [same]
    exact inbox.done_iff a owns
  · intro a once first second
    rw [same, same]
    exact inbox.unique a once first second
  · intro a b before first second
    rw [same, same]
    exact inbox.ordered a b before first second
  · intro position isConsumed
    rw [List.length_append]
    exact Nat.lt_add_right _ (inbox.bounded position isConsumed)

/-- An entry that is read waits. -/
theorem logged (inbox : Inbox reading own log consumed waiting done) {entry : ε}
    {a : α} (reads : reading.read entry = some a) (owns : own a)
    (once : ¬ reading.repeatable a → ¬ waiting a ∧ ¬ done a)
    (first : ∀ b, reading.precedes a b → b ≠ a ∧ ¬ waiting b ∧ ¬ done b) :
    Inbox reading own (log ++ [entry]) consumed (fun b => b = a ∨ waiting b) done := by
  have atEnd : ¬ consumed log.length := fun isConsumed =>
    absurd (inbox.bounded _ isConsumed) (Nat.lt_irrefl _)
  have isAt_iff : ∀ b position, reading.At (log ++ [entry]) b position ↔
      reading.At log b position ∨ position = log.length ∧ b = a := by
    intro b position
    rw [Reading.at_concat_iff, reads, Option.some.injEq]
    exact or_congr_right (and_congr_right fun _ => eq_comm)
  have absent : ∀ b, own b → ¬ waiting b ∧ ¬ done b →
      ∀ position, ¬ reading.At log b position := by
    intro b ownsB fresh position isAt
    rcases (inbox.at_of_logged ownsB).mp ⟨position, isAt⟩ with isWaiting | isDone
    · exact fresh.1 isWaiting
    · exact fresh.2 isDone
  constructor
  · intro b position isAt
    rcases (isAt_iff b position).mp isAt with old | ⟨_, rfl⟩
    · exact inbox.owned b position old
    · exact owns
  · intro b ownsB
    rw [inbox.waiting_iff b ownsB]
    constructor
    · rintro (rfl | ⟨position, isAt, fresh⟩)
      · exact ⟨log.length, (isAt_iff _ _).mpr (Or.inr ⟨rfl, rfl⟩), atEnd⟩
      · exact ⟨position, (isAt_iff _ _).mpr (Or.inl isAt), fresh⟩
    · rintro ⟨position, isAt, fresh⟩
      rcases (isAt_iff b position).mp isAt with old | ⟨_, rfl⟩
      · exact Or.inr ⟨position, old, fresh⟩
      · exact Or.inl rfl
  · intro b ownsB
    rw [inbox.done_iff b ownsB]
    constructor
    · rintro ⟨position, isAt, isConsumed⟩
      exact ⟨position, (isAt_iff _ _).mpr (Or.inl isAt), isConsumed⟩
    · rintro ⟨position, isAt, isConsumed⟩
      rcases (isAt_iff b position).mp isAt with old | ⟨rfl, _⟩
      · exact ⟨position, old, isConsumed⟩
      · exact absurd isConsumed atEnd
  · intro b notRepeatable left right leftAt rightAt
    rcases (isAt_iff b left).mp leftAt with oldLeft | ⟨rfl, rfl⟩
    · rcases (isAt_iff b right).mp rightAt with oldRight | ⟨rfl, rfl⟩
      · exact inbox.unique b notRepeatable left right oldLeft oldRight
      · exact absurd oldLeft
          (absent _ (inbox.owned _ left oldLeft) (once notRepeatable) left)
    · rcases (isAt_iff b right).mp rightAt with oldRight | ⟨rfl, _⟩
      · exact absurd oldRight (absent _ owns (once notRepeatable) right)
      · rfl
  · intro b c before left right leftAt rightAt
    rcases (isAt_iff c right).mp rightAt with oldRight | ⟨rfl, rfl⟩
    · rcases (isAt_iff b left).mp leftAt with oldLeft | ⟨rfl, rfl⟩
      · exact inbox.ordered b c before left right oldLeft oldRight
      · exact absurd oldRight
          (absent _ (inbox.owned _ right oldRight) (first _ before).2 right)
    · rcases (isAt_iff b left).mp leftAt with oldLeft | ⟨_, rfl⟩
      · exact oldLeft.lt_length
      · exact absurd rfl (first _ before).1
  · intro position isConsumed
    rw [List.length_append]
    exact Nat.lt_add_right _ (inbox.bounded position isConsumed)

/-- Entries appended to the log wait if they are read. -/
theorem append (inbox : Inbox reading own log consumed waiting done) {new : List ε}
    (mayLog : MayLog reading own done waiting (new.filterMap reading.read)) :
    Inbox reading own (log ++ new) consumed
      (fun a => a ∈ new.filterMap reading.read ∨ waiting a) done := by
  induction new generalizing log waiting with
  | nil => simpa using inbox
  | cons entry rest inductionHypothesis =>
      rw [List.append_cons]
      cases reads : reading.read entry with
      | none =>
          rw [List.filterMap_cons_none reads] at mayLog ⊢
          exact inductionHypothesis (inbox.unread reads) mayLog
      | some a =>
          rw [List.filterMap_cons_some reads] at mayLog ⊢
          rcases mayLog with ⟨owns, once, first, remaining⟩
          apply (inductionHypothesis (inbox.logged reads owns once first)
            remaining).congr
          · intro b _
            rw [List.mem_cons]
            tauto
          · exact fun b _ => Iff.rfl

/-- Consuming nothing that is read changes nothing. -/
theorem consume_unread (inbox : Inbox reading own log consumed waiting done)
    {consumed' : Nat → Prop}
    (same : ∀ a position, reading.At log a position →
      (consumed' position ↔ consumed position))
    (bounded : ∀ position, consumed' position → position < log.length) :
    Inbox reading own log consumed' waiting done where
  owned := inbox.owned
  waiting_iff := by
    intro a owns
    rw [inbox.waiting_iff a owns]
    exact exists_congr fun position =>
      and_congr_right fun isAt => not_congr (same a position isAt).symm
  done_iff := by
    intro a owns
    rw [inbox.done_iff a owns]
    exact exists_congr fun position =>
      and_congr_right fun isAt => (same a position isAt).symm
  unique := inbox.unique
  ordered := inbox.ordered
  bounded := bounded

/-- A consumed entry is done; another of its kind may go on waiting where the
kind is repeatable. -/
theorem consume (inbox : Inbox reading own log consumed waiting done) {a : α}
    {position : Nat} (isAt : reading.At log a position) :
    ∃ rest : Prop, (rest → reading.repeatable a) ∧
      Inbox reading own log (fun other => other = position ∨ consumed other)
        (fun b => waiting b ∧ (b = a → rest)) (fun b => b = a ∨ done b) := by
  refine ⟨∃ other, other ≠ position ∧ reading.At log a other ∧ ¬ consumed other,
    ?_, ?_⟩
  · rintro ⟨other, differs, otherAt, _⟩
    by_contra notRepeatable
    exact differs (inbox.unique a notRepeatable other position otherAt isAt)
  · constructor
    · exact inbox.owned
    · intro b owns
      rw [inbox.waiting_iff b owns]
      constructor
      · rintro ⟨⟨other, otherAt, fresh⟩, rest⟩
        by_cases here : other = position
        · subst here
          have same : b = a := by
            rcases otherAt with ⟨entry, found, reads⟩
            rcases isAt with ⟨entry', found', reads'⟩
            rw [found, Option.some.injEq] at found'
            rw [← found', reads] at reads'
            exact Option.some.inj reads'
          subst same
          rcases rest rfl with ⟨another, differs, anotherAt, anotherFresh⟩
          exact ⟨another, anotherAt, not_or.mpr ⟨differs, anotherFresh⟩⟩
        · exact ⟨other, otherAt, not_or.mpr ⟨here, fresh⟩⟩
      · rintro ⟨other, otherAt, fresh⟩
        rcases not_or.mp fresh with ⟨differs, notConsumed⟩
        refine ⟨⟨other, otherAt, notConsumed⟩, ?_⟩
        rintro rfl
        exact ⟨other, differs, otherAt, notConsumed⟩
    · intro b owns
      rw [inbox.done_iff b owns]
      constructor
      · rintro (rfl | ⟨other, otherAt, isConsumed⟩)
        · exact ⟨position, isAt, Or.inl rfl⟩
        · exact ⟨other, otherAt, Or.inr isConsumed⟩
      · rintro ⟨other, otherAt, rfl | isConsumed⟩
        · rcases otherAt with ⟨entry, found, reads⟩
          rcases isAt with ⟨entry', found', reads'⟩
          rw [found, Option.some.injEq] at found'
          rw [← found', reads] at reads'
          exact Or.inl (Option.some.inj reads')
        · exact Or.inr ⟨other, otherAt, isConsumed⟩
    · exact inbox.unique
    · exact inbox.ordered
    · rintro other (rfl | isConsumed)
      · exact isAt.lt_length
      · exact inbox.bounded other isConsumed

/-- Where everything before an entry is consumed, what precedes it is not
waiting. -/
theorem not_waiting_of_precedes
    (inbox : Inbox reading own log consumed waiting done) {a b : α}
    {position : Nat} (before : reading.precedes b a) (owns : own b)
    (isAt : reading.At log a position)
    (earlier : ∀ c, ∀ other < position, reading.At log c other → consumed other) :
    ¬ waiting b := by
  rw [inbox.waiting_iff b owns]
  rintro ⟨other, otherAt, fresh⟩
  exact fresh (earlier b other (inbox.ordered b a before other position otherAt isAt)
    otherAt)

end Inbox

end OrderToCash.Log
