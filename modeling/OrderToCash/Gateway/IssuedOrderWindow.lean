import OrderToCash.Gateway.ReplayBuffer
import OrderToCash.Table.InsertionOrder

/-!
# The window of the order identifiers just issued

What the gateway remembers of the orders it accepted: a bounded map from the
identifier to the time it was issued, in insertion order.  A read miss is
answered `pending` while the identifier is remembered and `unknown` otherwise.
The laws are told from the history of the calls, newest first.
-/

namespace OrderToCash.Gateway

open OrderToCash.Table

universe u

/-- The map with its bounds; construction refuses a capacity below 1. -/
structure IssuedOrderWindow where
  ttlMs : Int
  capacity : Nat
  positive : 1 ≤ capacity
  issuedAtMs : List (String × Int)
  distinct : (issuedAtMs.map Prod.fst).Nodup

/-- The two calls, each with the clock's reading. -/
inductive WindowCall
  | record (orderId : String) (now : Int)
  | isRecentlyIssued (orderId : String) (now : Int)
  deriving DecidableEq

/-- A read of one order: its document, or what a miss is answered. -/
inductive GetOrderResult (ρ : Type u)
  | found (detail : ρ)
  | pending
  | unknown
  deriving DecidableEq

def WindowCall.now : WindowCall → Int
  | record _ now => now
  | isRecentlyIssued _ now => now

namespace IssuedOrderWindow

def create (ttlMs : Int) (capacity : Nat) : Except String IssuedOrderWindow :=
  if ttlMs < 1 then
    .error "IssuedOrderWindow: ttlMs must be at least 1"
  else if positive : 1 ≤ capacity then
    .ok ⟨ttlMs, capacity, positive, [], List.nodup_nil⟩
  else
    .error "IssuedOrderWindow: capacity must be at least 1"

def record (window : IssuedOrderWindow) (orderId : String) (now : Int) :
    IssuedOrderWindow :=
  { window with
    issuedAtMs := shiftOverflow window.capacity
      (assign orderId now window.issuedAtMs)
    distinct := ((shiftOverflow_suffix _ _).sublist.map Prod.fst).nodup
      (nodup_assign window.distinct orderId now) }

/-- The read that finds an expired entry evicts it. -/
def isRecentlyIssued (window : IssuedOrderWindow) (orderId : String)
    (now : Int) : Bool × IssuedOrderWindow :=
  match valueOf? orderId window.issuedAtMs with
  | none => (false, window)
  | some issuedAt =>
      if window.ttlMs < now - issuedAt then
        (false,
          { window with
            issuedAtMs := discard orderId window.issuedAtMs
            distinct := nodup_discard window.distinct orderId })
      else
        (true, window)

def perform (window : IssuedOrderWindow) : WindowCall → IssuedOrderWindow
  | .record orderId now => window.record orderId now
  | .isRecentlyIssued orderId now => (window.isRecentlyIssued orderId now).2

/-- The window after the calls of a history, the newest of which comes first. -/
def after (window : IssuedOrderWindow) : List WindowCall → IssuedOrderWindow
  | [] => window
  | call :: earlier => (window.after earlier).perform call

/-- The read model answers first; only a miss asks the window. -/
def getOrder {ρ : Type u} (document : Option ρ) (window : IssuedOrderWindow)
    (orderId : String) (now : Int) : GetOrderResult ρ × IssuedOrderWindow :=
  match document with
  | some detail => (.found detail, window)
  | none =>
      match window.isRecentlyIssued orderId now with
      | (true, next) => (.pending, next)
      | (false, next) => (.unknown, next)

end IssuedOrderWindow

/-! ## What the history says -/

/-- When the identifier was recorded last. -/
def lastRecord (orderId : String) : List WindowCall → Option Int
  | [] => none
  | .record other now :: earlier =>
      if other = orderId then some now else lastRecord orderId earlier
  | .isRecentlyIssued _ _ :: earlier => lastRecord orderId earlier

/-- The other identifiers recorded since then, each once. -/
def recordedSince (orderId : String) : List WindowCall → List String
  | [] => []
  | .record other _ :: earlier =>
      if other = orderId then [] else (recordedSince orderId earlier).insert other
  | .isRecentlyIssued _ _ :: earlier => recordedSince orderId earlier

/-- The clock never went back, and it has not since. -/
structure Timed (history : List WindowCall) (now : Int) : Prop where
  ordered : history.Pairwise fun later earlier => earlier.now ≤ later.now
  past : ∀ call ∈ history, call.now ≤ now

theorem Timed.earlier {call : WindowCall} {history : List WindowCall} {now : Int}
    (timed : Timed (call :: history) now) : Timed history call.now := by
  rcases List.pairwise_cons.mp timed.ordered with ⟨before, ordered⟩
  exact ⟨ordered, before⟩

theorem Timed.call_le {call : WindowCall} {history : List WindowCall} {now : Int}
    (timed : Timed (call :: history) now) : call.now ≤ now :=
  timed.past call List.mem_cons_self

theorem nodup_recordedSince (orderId : String) (history : List WindowCall) :
    (recordedSince orderId history).Nodup := by
  induction history with
  | nil => exact List.nodup_nil
  | cons call earlier inductionHypothesis =>
      cases call with
      | record other now =>
          unfold recordedSince
          split
          · exact List.nodup_nil
          · exact inductionHypothesis.insert
      | isRecentlyIssued other now => exact inductionHypothesis

theorem lastRecord_record_ne {orderId other : String} (differs : other ≠ orderId)
    (now : Int) (earlier : List WindowCall) :
    lastRecord orderId (.record other now :: earlier) =
      lastRecord orderId earlier :=
  if_neg differs

theorem mem_recordedSince_record {orderId other wanted : String}
    (differs : other ≠ orderId) (now : Int) (earlier : List WindowCall) :
    wanted ∈ recordedSince orderId (.record other now :: earlier) ↔
      wanted = other ∨ wanted ∈ recordedSince orderId earlier := by
  have inserted : recordedSince orderId (.record other now :: earlier) =
      (recordedSince orderId earlier).insert other := if_neg differs
  rw [inserted, List.mem_insert_iff]

theorem length_recordedSince_le {orderId other : String}
    (differs : other ≠ orderId) (now : Int) (earlier : List WindowCall) :
    (recordedSince orderId earlier).length ≤
      (recordedSince orderId (.record other now :: earlier)).length := by
  have subset : recordedSince orderId earlier ⊆
      recordedSince orderId (.record other now :: earlier) := by
    intro wanted wantedMem
    exact (mem_recordedSince_record differs now earlier).mpr (Or.inr wantedMem)
  exact (List.subperm_of_subset (nodup_recordedSince orderId earlier)
    subset).length_le

/-! ## The calls, by what they leave in the window -/

theorem shiftOverflow_of_length_le {α : Type u} {capacity : Nat}
    {entries : List α} (fits : entries.length ≤ capacity) :
    shiftOverflow capacity entries = entries := by
  cases entries with
  | nil => rfl
  | cons oldest rest => exact if_neg (Nat.not_lt.mpr fits)

/-- One entry too many costs the oldest one. -/
theorem shiftOverflow_cons_of_length_eq {α : Type u} {capacity : Nat}
    (oldest : α) {rest : List α} (full : rest.length = capacity) :
    shiftOverflow capacity (oldest :: rest) = rest := by
  have overflows : capacity < (oldest :: rest).length := by
    rw [List.length_cons, full]
    exact Nat.lt_succ_self capacity
  rw [shiftOverflow, if_pos overflows]
  exact shiftOverflow_of_length_le (Nat.le_of_eq full)

theorem length_shiftOverflow_le {α : Type u} (capacity : Nat)
    (entries : List α) : (shiftOverflow capacity entries).length ≤ capacity := by
  induction entries with
  | nil => exact Nat.zero_le capacity
  | cons oldest rest inductionHypothesis =>
      unfold shiftOverflow
      split
      · exact inductionHypothesis
      · rename_i fits
        exact Nat.not_lt.mp fits

namespace IssuedOrderWindow

variable {window : IssuedOrderWindow} {history : List WindowCall}
  {orderId : String} {issuedAt now : Int}

theorem create_eq_ok {ttlMs : Int} {capacity : Nat}
    (created : create ttlMs capacity = .ok window) :
    window.issuedAtMs = [] := by
  unfold create at created
  split at created
  · cases created
  · split at created
    · cases created
      rfl
    · cases created

/-- An identifier is answered for exactly while an entry of it is not expired. -/
theorem isRecentlyIssued_eq_true_iff :
    (window.isRecentlyIssued orderId now).1 = true ↔
      ∃ issuedAt, (orderId, issuedAt) ∈ window.issuedAtMs ∧
        now - issuedAt ≤ window.ttlMs := by
  unfold isRecentlyIssued
  cases found : valueOf? orderId window.issuedAtMs with
  | none =>
      have absent := valueOf?_eq_none_iff.mp found
      simp only [Bool.false_eq_true, false_iff]
      rintro ⟨issuedAt, stored, _⟩
      exact absent (List.mem_map_of_mem stored)
  | some issuedAt =>
      have stored := (valueOf?_eq_some_iff window.distinct).mp found
      have only : ∀ other, (orderId, other) ∈ window.issuedAtMs →
          other = issuedAt := by
        intro other otherStored
        have same := (valueOf?_eq_some_iff window.distinct).mpr otherStored
        exact Option.some.inj (same.symm.trans found)
      by_cases expired : window.ttlMs < now - issuedAt
      · simp only [if_pos expired, Bool.false_eq_true, false_iff]
        rintro ⟨other, otherStored, fresh⟩
        rw [only other otherStored] at fresh
        exact absurd expired (Int.not_lt.mpr fresh)
      · simp only [if_neg expired, true_iff]
        exact ⟨issuedAt, stored, Int.not_lt.mp expired⟩

/-- A miss is pending or unknown as the window says. -/
theorem getOrder_none {ρ : Type u} :
    (getOrder (none : Option ρ) window orderId now).1 =
      if (window.isRecentlyIssued orderId now).1 then .pending else .unknown := by
  unfold getOrder
  rcases window.isRecentlyIssued orderId now with ⟨answer, next⟩
  cases answer
  · rfl
  · rfl

/-- A read keeps every entry but an expired one of its own identifier. -/
theorem mem_isRecentlyIssued {other : String} :
    (other, issuedAt) ∈ (window.isRecentlyIssued orderId now).2.issuedAtMs ↔
      (other, issuedAt) ∈ window.issuedAtMs ∧
        (other = orderId → now - issuedAt ≤ window.ttlMs) := by
  unfold isRecentlyIssued
  cases found : valueOf? orderId window.issuedAtMs with
  | none =>
      have absent := valueOf?_eq_none_iff.mp found
      constructor
      · intro stored
        refine ⟨stored, ?_⟩
        rintro rfl
        exact absurd (List.mem_map_of_mem stored) absent
      · exact And.left
  | some held =>
      have only : ∀ value, (orderId, value) ∈ window.issuedAtMs →
          value = held := by
        intro value stored
        have same := (valueOf?_eq_some_iff window.distinct).mpr stored
        exact Option.some.inj (same.symm.trans found)
      by_cases expired : window.ttlMs < now - held
      · simp only [if_pos expired]
        rw [mem_discard]
        constructor
        · rintro ⟨differs, stored⟩
          exact ⟨stored, fun same => absurd same differs⟩
        · rintro ⟨stored, fresh⟩
          refine ⟨?_, stored⟩
          rintro rfl
          rw [only issuedAt stored] at fresh
          exact absurd expired (Int.not_lt.mpr (fresh rfl))
      · simp only [if_neg expired]
        constructor
        · intro stored
          refine ⟨stored, ?_⟩
          rintro rfl
          rw [only issuedAt stored]
          exact Int.not_lt.mp expired
        · exact And.left

theorem length_isRecentlyIssued_le :
    (window.isRecentlyIssued orderId now).2.issuedAtMs.length ≤
      window.issuedAtMs.length := by
  unfold isRecentlyIssued
  cases valueOf? orderId window.issuedAtMs with
  | none => exact Nat.le_refl _
  | some held =>
      by_cases expired : window.ttlMs < now - held
      · simp only [if_pos expired]
        exact List.length_filter_le _ _
      · simp only [if_neg expired]
        exact Nat.le_refl _

theorem isRecentlyIssued_bounds :
    (window.isRecentlyIssued orderId now).2.ttlMs = window.ttlMs ∧
      (window.isRecentlyIssued orderId now).2.capacity = window.capacity := by
  unfold isRecentlyIssued
  cases valueOf? orderId window.issuedAtMs with
  | none => exact ⟨rfl, rfl⟩
  | some held =>
      by_cases expired : window.ttlMs < now - held
      · simp only [if_pos expired, and_self]
      · simp only [if_neg expired, and_self]

/-- The calls change neither bound. -/
theorem after_bounds (window : IssuedOrderWindow) (history : List WindowCall) :
    (window.after history).ttlMs = window.ttlMs ∧
      (window.after history).capacity = window.capacity := by
  induction history with
  | nil => exact ⟨rfl, rfl⟩
  | cons call earlier inductionHypothesis =>
      cases call with
      | record orderId now => exact inductionHypothesis
      | isRecentlyIssued orderId now =>
          exact ⟨isRecentlyIssued_bounds.1.trans inductionHypothesis.1,
            isRecentlyIssued_bounds.2.trans inductionHypothesis.2⟩

/-- Whatever is recorded, no more than the capacity stays. -/
theorem length_after_le (empty : window.issuedAtMs = [])
    (history : List WindowCall) :
    (window.after history).issuedAtMs.length ≤ window.capacity := by
  induction history with
  | nil =>
      rw [after, empty]
      exact Nat.zero_le _
  | cons call earlier inductionHypothesis =>
      cases call with
      | record orderId now =>
          have kept := length_shiftOverflow_le (window.after earlier).capacity
            (assign orderId now (window.after earlier).issuedAtMs)
          rw [(after_bounds window earlier).2] at kept
          simpa [after, perform, record, (after_bounds window earlier).2]
            using kept
      | isRecentlyIssued orderId now =>
          exact Nat.le_trans length_isRecentlyIssued_le inductionHypothesis

theorem record_issuedAtMs (window : IssuedOrderWindow) (orderId : String)
    (now : Int) : (window.record orderId now).issuedAtMs =
      shiftOverflow window.capacity (assign orderId now window.issuedAtMs) := rfl

/-- Recording an identifier the window holds refreshes it in its place; one it
does not hold goes to the end, at the cost of the oldest when it was full. -/
theorem issuedAtMs_record (bounded : window.issuedAtMs.length ≤ window.capacity) :
    (orderId ∈ window.issuedAtMs.map Prod.fst ∧
        (window.record orderId now).issuedAtMs =
          assign orderId now window.issuedAtMs) ∨
      (orderId ∉ window.issuedAtMs.map Prod.fst ∧
        window.issuedAtMs.length < window.capacity ∧
        (window.record orderId now).issuedAtMs =
          window.issuedAtMs ++ [(orderId, now)]) ∨
      ∃ oldest rest, window.issuedAtMs = oldest :: rest ∧
        orderId ∉ window.issuedAtMs.map Prod.fst ∧
        window.issuedAtMs.length = window.capacity ∧
        (window.record orderId now).issuedAtMs = rest ++ [(orderId, now)] := by
  by_cases held : orderId ∈ window.issuedAtMs.map Prod.fst
  · refine Or.inl ⟨held, shiftOverflow_of_length_le ?_⟩
    rw [length_assign_of_mem held]
    exact bounded
  · have appended := assign_of_notMem held now
    rcases Nat.lt_or_eq_of_le bounded with fits | full
    · refine Or.inr (Or.inl ⟨held, fits, ?_⟩)
      have unchanged := @shiftOverflow_of_length_le _ window.capacity
        (window.issuedAtMs ++ [(orderId, now)])
        (by rw [List.length_append]; exact fits)
      exact (congrArg _ appended).trans unchanged
    · refine Or.inr (Or.inr ?_)
      cases stored : window.issuedAtMs with
      | nil =>
          have positive := window.positive
          rw [← full, stored] at positive
          cases positive
      | cons oldest rest =>
          rw [stored] at appended full
          refine ⟨oldest, rest, rfl, stored ▸ held, full, ?_⟩
          have evicted := @shiftOverflow_cons_of_length_eq _ window.capacity oldest
            (rest ++ [(orderId, now)]) (by simpa using full)
          rw [record_issuedAtMs, stored, appended]
          exact evicted

/-! ## The laws of the window -/

/-- What a window answers at a time after the calls of a history. -/
structure Answers (window : IssuedOrderWindow) (history : List WindowCall)
    (now : Int) : Prop where
  remembered : ∀ orderId issuedAt, lastRecord orderId history = some issuedAt →
    now - issuedAt ≤ window.ttlMs →
    (recordedSince orderId history).length < window.capacity →
      (window.isRecentlyIssued orderId now).1 = true ∧
        ∀ ρ : Type, (getOrder (none : Option ρ) window orderId now).1 = .pending
  forgotten : ∀ orderId, (∀ issuedAt, lastRecord orderId history = some issuedAt →
      window.ttlMs < now - issuedAt) →
    (window.isRecentlyIssued orderId now).1 = false ∧
      ∀ ρ : Type, (getOrder (none : Option ρ) window orderId now).1 = .unknown
  bounded : window.issuedAtMs.length ≤ window.capacity

/-- An identifier new to a full window takes the place of one that has expired
or that `capacity` other identifiers were recorded after. -/
def EvictsStale (window : IssuedOrderWindow) (past : List WindowCall)
    (orderId : String) (now : Int) : Prop :=
  orderId ∉ window.issuedAtMs.map Prod.fst →
    window.issuedAtMs.length = window.capacity →
      ∀ oldest issuedAt, window.issuedAtMs.head? = some (oldest, issuedAt) →
        window.ttlMs < now - issuedAt ∨
          window.capacity ≤
            (recordedSince oldest (.record orderId now :: past)).length

/-- What the window holds is the latest record of it. -/
def Recalls (window : IssuedOrderWindow) (history : List WindowCall) : Prop :=
  ∀ orderId issuedAt, (orderId, issuedAt) ∈ window.issuedAtMs →
    lastRecord orderId history = some issuedAt

/-- The window holds what it must answer for at any time from now on. -/
def Remembers (window : IssuedOrderWindow) (history : List WindowCall) : Prop :=
  ∀ now, Timed history now → ∀ orderId issuedAt,
    lastRecord orderId history = some issuedAt →
    now - issuedAt ≤ window.ttlMs →
    (recordedSince orderId history).length < window.capacity →
      (orderId, issuedAt) ∈ window.issuedAtMs

theorem mem_record {other : String}
    (stored : (other, issuedAt) ∈ (window.record orderId now).issuedAtMs) :
    (other = orderId ∧ issuedAt = now) ∨
      (other ≠ orderId ∧ (other, issuedAt) ∈ window.issuedAtMs) :=
  mem_assign.mp ((shiftOverflow_suffix _ _).subset stored)

theorem Recalls.step {call : WindowCall} (recalls : window.Recalls history) :
    (window.perform call).Recalls (call :: history) := by
  intro other issuedAt stored
  cases call with
  | record orderId now =>
      rcases mem_record stored with ⟨rfl, rfl⟩ | ⟨differs, before⟩
      · exact if_pos rfl
      · rw [lastRecord_record_ne (Ne.symm differs)]
        exact recalls other issuedAt before
  | isRecentlyIssued orderId now =>
      exact recalls other issuedAt (mem_isRecentlyIssued.mp stored).1

theorem recalls_after (empty : window.issuedAtMs = [])
    (history : List WindowCall) : (window.after history).Recalls history := by
  induction history with
  | nil =>
      intro orderId issuedAt stored
      rw [after, empty] at stored
      cases stored
  | cons call earlier inductionHypothesis => exact inductionHypothesis.step

/-- A record keeps what must be remembered when it evicts only what is stale. -/
theorem Remembers.record (bounded : window.issuedAtMs.length ≤ window.capacity)
    (remembers : window.Remembers history)
    (stale : window.EvictsStale history orderId now) :
    (window.record orderId now).Remembers (.record orderId now :: history) := by
  intro later timed other issuedAt latest fresh few
  by_cases same : orderId = other
  · subst same
    have here : now = issuedAt :=
      Option.some.inj ((if_pos rfl).symm.trans latest)
    subst here
    rcases @issuedAtMs_record window orderId now bounded with
      ⟨_, stored⟩ | ⟨_, _, stored⟩ | ⟨_, _, _, _, _, stored⟩
    · rw [stored]
      exact mem_assign.mpr (Or.inl ⟨rfl, rfl⟩)
    · rw [stored]
      exact List.mem_append_right _ (List.mem_singleton.mpr rfl)
    · rw [stored]
      exact List.mem_append_right _ (List.mem_singleton.mpr rfl)
  · -- Another identifier: it was held before, and it is not the one evicted.
    have latestBefore : lastRecord other history = some issuedAt :=
      (lastRecord_record_ne same now history).symm.trans latest
    have callBefore : now ≤ later := timed.call_le
    have freshBefore : now - issuedAt ≤ window.ttlMs := by
      have fresh : later - issuedAt ≤ window.ttlMs := fresh
      omega
    have fewBefore : (recordedSince other history).length < window.capacity :=
      Nat.lt_of_le_of_lt (length_recordedSince_le same now history) few
    have held := remembers now timed.earlier other issuedAt latestBefore
      freshBefore fewBefore
    rcases @issuedAtMs_record window orderId now bounded with
      ⟨_, stored⟩ | ⟨_, _, stored⟩ | ⟨oldest, rest, split, absent, full, stored⟩
    · rw [stored]
      exact mem_assign.mpr (Or.inr ⟨Ne.symm same, held⟩)
    · rw [stored]
      exact List.mem_append_left _ held
    · rw [stored]
      rw [split] at held
      rcases List.mem_cons.mp held with rfl | inRest
      · have isHead : window.issuedAtMs.head? = some (other, issuedAt) := by
          rw [split, List.head?_cons]
        rcases stale absent full other issuedAt isHead with expired | many
        · exact absurd expired (Int.not_lt.mpr freshBefore)
        · exact absurd few (Nat.not_lt.mpr many)
      · exact List.mem_append_left _ inRest

theorem Remembers.isRecentlyIssued (remembers : window.Remembers history) :
    (window.isRecentlyIssued orderId now).2.Remembers
      (.isRecentlyIssued orderId now :: history) := by
  intro later timed other issuedAt latest fresh few
  rw [isRecentlyIssued_bounds.1] at fresh
  rw [isRecentlyIssued_bounds.2] at few
  have callBefore : now ≤ later := timed.call_le
  have freshBefore : now - issuedAt ≤ window.ttlMs := by omega
  apply mem_isRecentlyIssued.mpr
  exact ⟨remembers now timed.earlier other issuedAt latest freshBefore few,
    fun _ => freshBefore⟩

/-- A history whose records evict only what is stale is remembered. -/
theorem remembers_after (empty : window.issuedAtMs = [])
    (stale : ∀ past orderId now, .record orderId now :: past <:+ history →
      (window.after past).EvictsStale past orderId now) :
    (window.after history).Remembers history := by
  induction history with
  | nil =>
      intro now timed orderId issuedAt latest
      cases latest
  | cons call earlier inductionHypothesis =>
      have remembers := inductionHypothesis fun past orderId now isPast =>
        stale past orderId now (isPast.trans (List.suffix_cons call earlier))
      cases call with
      | record orderId now =>
          apply remembers.record
          · rw [(after_bounds window earlier).2]
            exact length_after_le empty earlier
          · exact stale earlier orderId now List.suffix_rfl
      | isRecentlyIssued orderId now => exact remembers.isRecentlyIssued

/-- A window that recalls and remembers answers as it should. -/
theorem answers_of_remembers (recalls : window.Recalls history)
    (remembers : window.Remembers history)
    (bounded : window.issuedAtMs.length ≤ window.capacity)
    (timed : Timed history now) : window.Answers history now where
  remembered := by
    intro orderId issuedAt latest fresh few
    have held := remembers now timed orderId issuedAt latest fresh few
    have isTrue : (window.isRecentlyIssued orderId now).1 = true :=
      isRecentlyIssued_eq_true_iff.mpr ⟨issuedAt, held, fresh⟩
    refine ⟨isTrue, fun ρ => ?_⟩
    rw [getOrder_none, if_pos isTrue]
  forgotten := by
    intro orderId expired
    have isFalse : ¬ (window.isRecentlyIssued orderId now).1 = true := by
      intro isTrue
      rcases isRecentlyIssued_eq_true_iff.mp isTrue with ⟨issuedAt, held, fresh⟩
      have late := expired issuedAt (recalls orderId issuedAt held)
      exact absurd late (Int.not_lt.mpr fresh)
    refine ⟨Bool.not_eq_true _ ▸ isFalse, fun ρ => ?_⟩
    rw [getOrder_none, if_neg isFalse]
  bounded := bounded

/-- An answer for the evicted identifier would need an entry that is gone. -/
theorem evictsStale_of_answers (recalls : window.Recalls history)
    (bounded : window.issuedAtMs.length ≤ window.capacity)
    (answers : (window.record orderId now).Answers
      (.record orderId now :: history) now) :
    window.EvictsStale history orderId now := by
  intro absent full oldest issuedAt isHead
  by_contra neither
  rw [not_or] at neither
  rcases neither with ⟨fresh, few⟩
  rcases List.head?_eq_some_iff.mp isHead with ⟨rest, split⟩
  have held : (oldest, issuedAt) ∈ window.issuedAtMs := by
    rw [split]
    exact List.mem_cons_self
  have differs : orderId ≠ oldest := by
    rintro rfl
    exact absent (List.mem_map_of_mem held)
  have latest : lastRecord oldest (.record orderId now :: history) =
      some issuedAt :=
    (lastRecord_record_ne differs now history).trans
      (recalls oldest issuedAt held)
  have isTrue := (answers.remembered oldest issuedAt latest
    (Int.not_lt.mp fresh) (Nat.not_le.mp few)).1
  rcases isRecentlyIssued_eq_true_iff.mp isTrue with ⟨other, stored, _⟩
  rcases @issuedAtMs_record window orderId now bounded with
    ⟨present, _⟩ | ⟨_, fits, _⟩ | ⟨first, others, splitOthers, _, _, evicted⟩
  · exact absent present
  · exact absurd full (Nat.ne_of_lt fits)
  · -- The oldest entry is neither among the rest nor the one appended.
    rw [split] at splitOthers
    cases splitOthers
    rw [evicted] at stored
    have distinct := window.distinct
    rw [split, List.map_cons, List.nodup_cons] at distinct
    rcases List.mem_append.mp stored with inRest | appended
    · exact distinct.1 (List.mem_map.mpr ⟨(oldest, other), inRest, rfl⟩)
    · rw [List.mem_singleton, Prod.mk.injEq] at appended
      exact differs appended.1.symm

/-! ## Histories without a repeated record -/

/-- The window has the order of the records: what stands behind an entry was
recorded after it. -/
def Queued (window : IssuedOrderWindow) (history : List WindowCall) : Prop :=
  window.issuedAtMs.Pairwise fun earlier later =>
    later.1 ∈ recordedSince earlier.1 history

theorem Queued.record (queued : window.Queued history)
    (absent : orderId ∉ window.issuedAtMs.map Prod.fst) :
    (window.record orderId now).Queued (.record orderId now :: history) := by
  have kept : (window.record orderId now).issuedAtMs <:+
      window.issuedAtMs ++ [(orderId, now)] := by
    rw [record_issuedAtMs, assign_of_notMem absent]
    exact shiftOverflow_suffix _ _
  apply List.Pairwise.sublist kept.sublist
  rw [List.pairwise_append]
  have differs : ∀ entry ∈ window.issuedAtMs, orderId ≠ entry.1 := by
    rintro entry stored rfl
    exact absent (List.mem_map_of_mem stored)
  refine ⟨?_, List.pairwise_singleton _ _, ?_⟩
  · apply List.Pairwise.imp_of_mem ?_ queued
    intro earlier later earlierMem _ since
    exact (mem_recordedSince_record (differs earlier earlierMem) now
      history).mpr (Or.inr since)
  · intro earlier earlierMem later laterMem
    rw [List.mem_singleton.mp laterMem]
    exact (mem_recordedSince_record (differs earlier earlierMem) now
      history).mpr (Or.inl rfl)

theorem Queued.isRecentlyIssued (queued : window.Queued history) :
    (window.isRecentlyIssued orderId now).2.Queued
      (.isRecentlyIssued orderId now :: history) := by
  have kept : (window.isRecentlyIssued orderId now).2.issuedAtMs.Sublist
      window.issuedAtMs := by
    unfold IssuedOrderWindow.isRecentlyIssued
    cases valueOf? orderId window.issuedAtMs with
    | none => exact List.Sublist.refl _
    | some held =>
        by_cases expired : window.ttlMs < now - held
        · simp only [if_pos expired]
          exact List.filter_sublist
        · simp only [if_neg expired]
          exact List.Sublist.refl _
  exact List.Pairwise.sublist kept queued

/-- Where no record names an identifier the window holds, what a full window
gives up has the capacity's worth of records behind it. -/
theorem Queued.evictsStale (queued : window.Queued history) :
    window.EvictsStale history orderId now := by
  intro absent full oldest issuedAt isHead
  right
  rcases List.head?_eq_some_iff.mp isHead with ⟨rest, split⟩
  have distinct := window.distinct
  rw [split, List.map_cons] at distinct
  have absentRest := absent
  rw [split, List.map_cons, List.mem_cons, not_or] at absentRest
  have behind := queued
  unfold Queued at behind
  rw [split, List.pairwise_cons] at behind
  have recorded : orderId :: rest.map Prod.fst ⊆
      recordedSince oldest (.record orderId now :: history) := by
    intro wanted wantedMem
    apply (mem_recordedSince_record absentRest.1 now history).mpr
    rcases List.mem_cons.mp wantedMem with rfl | inRest
    · exact Or.inl rfl
    · rcases List.mem_map.mp inRest with ⟨entry, entryMem, rfl⟩
      exact Or.inr (behind.1 entry entryMem)
  have different : (orderId :: rest.map Prod.fst).Nodup :=
    List.nodup_cons.mpr ⟨absentRest.2, (List.nodup_cons.mp distinct).2⟩
  have counted := (List.subperm_of_subset different recorded).length_le
  rw [List.length_cons, List.length_map] at counted
  rw [split, List.length_cons] at full
  exact full ▸ counted

theorem queued_after (empty : window.issuedAtMs = [])
    (fresh : ∀ past orderId now, .record orderId now :: past <:+ history →
      orderId ∉ (window.after past).issuedAtMs.map Prod.fst) :
    (window.after history).Queued history := by
  induction history with
  | nil =>
      unfold Queued
      rw [after, empty]
      exact List.Pairwise.nil
  | cons call earlier inductionHypothesis =>
      have queued := inductionHypothesis fun past orderId now isPast =>
        fresh past orderId now (isPast.trans (List.suffix_cons call earlier))
      cases call with
      | record orderId now =>
          exact queued.record (fresh earlier orderId now List.suffix_rfl)
      | isRecentlyIssued orderId now => exact queued.isRecentlyIssued

/-! ## The law over whole histories -/

theorem timed_of_ordered {call : WindowCall}
    (ordered : (call :: history).Pairwise fun later earlier =>
      earlier.now ≤ later.now) : Timed (call :: history) call.now := by
  refine ⟨ordered, ?_⟩
  intro earlier earlierMem
  rcases List.mem_cons.mp earlierMem with rfl | before
  · exact Int.le_refl _
  · exact (List.pairwise_cons.mp ordered).1 earlier before

/-- A window whose records evict only what is stale answers as it should. -/
theorem answers_of_evictsStale (empty : window.issuedAtMs = [])
    (stale : ∀ past orderId now, .record orderId now :: past <:+ history →
      (window.after past).EvictsStale past orderId now)
    (timed : Timed history now) : (window.after history).Answers history now := by
  apply answers_of_remembers (recalls_after empty history)
    (remembers_after empty stale) ?_ timed
  rw [(after_bounds window history).2]
  exact length_after_le empty history

/-- No identifier is recorded again while it is held: then the window answers
as it should. -/
theorem answers_of_fresh (empty : window.issuedAtMs = [])
    (fresh : ∀ past orderId now, .record orderId now :: past <:+ history →
      orderId ∉ (window.after past).issuedAtMs.map Prod.fst)
    (timed : Timed history now) : (window.after history).Answers history now := by
  apply answers_of_evictsStale empty ?_ timed
  intro past orderId later isPast
  have queued := queued_after empty fun older other earlier isOlder =>
    fresh older other earlier
      (isOlder.trans ((List.suffix_cons _ past).trans isPast))
  exact queued.evictsStale

/-- The window answers as it should at every moment of a history exactly when
every record that meets a full window evicts what is stale. -/
theorem answers_iff_evictsStale {ttlMs : Int} {capacity : Nat}
    (created : create ttlMs capacity = .ok window)
    (ordered : history.Pairwise fun later earlier => earlier.now ≤ later.now) :
    (∀ past, past <:+ history → ∀ now, Timed past now →
        (window.after past).Answers past now) ↔
      ∀ past orderId now, .record orderId now :: past <:+ history →
        (window.after past).EvictsStale past orderId now := by
  have empty := create_eq_ok created
  constructor
  · intro answers past orderId now isPast
    have timed := timed_of_ordered (ordered.sublist isPast.sublist)
    apply evictsStale_of_answers (recalls_after empty past) ?_
      (answers _ isPast now timed)
    rw [(after_bounds window past).2]
    exact length_after_le empty past
  · intro stale past isPast now timed
    exact answers_of_evictsStale empty
      (fun older orderId earlier isOlder =>
        stale older orderId earlier (isOlder.trans isPast)) timed

/-- A window of two, before any call. -/
def ofTwo : IssuedOrderWindow := ⟨1000, 2, by decide, [], List.nodup_nil⟩

/-- `b` is placed again while it is held, and `c` evicts `a`, which two others came
after. -/
def evictedInTurn : List WindowCall :=
  [.record "c" 3, .record "b" 2, .record "b" 1, .record "a" 0]

theorem ofTwo_answers_iff :
    (ofTwo.after evictedInTurn).issuedAtMs = [("b", 2), ("c", 3)] ∧
      ∀ past, past <:+ evictedInTurn → ∀ now, Timed past now →
        (ofTwo.after past).Answers past now := by
  refine ⟨by decide, (@answers_iff_evictsStale ofTwo evictedInTurn 1000 2 rfl
    (by decide)).mpr ?_⟩
  intro past orderId now isPast isNew isFull oldest issuedAt isOldest
  simp only [evictedInTurn, List.suffix_cons_iff, List.suffix_nil, List.cons.injEq,
    WindowCall.record.injEq, reduceCtorEq, or_false] at isPast
  rcases isPast with ⟨⟨rfl, rfl⟩, rfl⟩ | ⟨⟨rfl, rfl⟩, rfl⟩ | ⟨⟨rfl, rfl⟩, rfl⟩ |
    ⟨⟨rfl, rfl⟩, rfl⟩
  · cases isOldest
    exact Or.inr (by decide)
  · exact absurd (by decide) isNew
  · cases isFull
  · cases isFull

/-- `a` is placed again after `b`, keeps its place before `b`, and is evicted by
`c`: one other identifier after its record, in a window of two. -/
def placedAgain : List WindowCall :=
  [.record "c" 3, .record "a" 2, .record "b" 1, .record "a" 0]

theorem placedAgain_not_answers :
    create 1000 2 = .ok ofTwo ∧ Timed placedAgain 3 ∧
      lastRecord "a" placedAgain = some 2 ∧
      recordedSince "a" placedAgain = ["c"] ∧
      ((ofTwo.after placedAgain).isRecentlyIssued "a" 3).1 = false ∧
      ¬ (ofTwo.after placedAgain).Answers placedAgain 3 := by
  have isFalse : ((ofTwo.after placedAgain).isRecentlyIssued "a" 3).1 = false := by
    decide
  refine ⟨rfl, ⟨by decide, by decide⟩, by decide, by decide, isFalse, ?_⟩
  intro answers
  have isTrue := (answers.remembered "a" 2 (by decide) (by decide)
    (by decide)).1
  rw [isFalse] at isTrue
  cases isTrue

end IssuedOrderWindow

end OrderToCash.Gateway
