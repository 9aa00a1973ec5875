import OrderToCash.Contracts.Facts
import OrderToCash.Transition.Run

/-!
# The outbox relay

Every service has its copy of the relay.  A cycle claims unpublished rows in the
order of their sequence, skipping those that another open transaction holds,
publishes their facts in one call and stamps the rows once the broker has
acknowledged them, all in one transaction.  Writers insert rows and commit them,
any number of relays run their cycles, and the broker appends a call's facts
whenever it does, which may be after the relay has stopped waiting.
-/

namespace OrderToCash.Outbox

open OrderToCash.Contracts
open OrderToCash.Kernel
open OrderToCash.Transition

/-- A row of `outbox`, with the transaction that inserted it. -/
structure OutboxRow where
  seq : Nat
  eventId : UniqueId
  fact : Fact
  writer : Nat
  committed : Bool
  published : Bool
deriving DecidableEq, Repr

/-- What is published of a row: its envelope, under the partition key. -/
structure PublishableFact where
  key : OrderNumber
  eventId : UniqueId
  fact : Fact
deriving DecidableEq, Repr

namespace OutboxRow

def correlationId (row : OutboxRow) : OrderNumber := row.fact.orderReference

def toPublishable (row : OutboxRow) : PublishableFact :=
  ⟨row.correlationId, row.eventId, row.fact⟩

end OutboxRow

/-- One call of the producer; the broker appends its facts together. -/
structure PublishCall where
  facts : List PublishableFact
  appended : Bool
deriving DecidableEq, Repr

inductive CyclePhase
  | claimed
  | publishing (call : Nat)
  | acknowledged
deriving DecidableEq, Repr

/-- An open cycle of a relay, with the rows it holds. -/
structure RelayCycle where
  batch : List OutboxRow
  phase : CyclePhase
deriving DecidableEq, Repr

structure RelaySystem where
  rows : List OutboxRow
  nextSeq : Nat
  cycles : List RelayCycle
  calls : List PublishCall
  topic : List PublishableFact
  /-- The facts whose acknowledgement has reached the relay that sent them. -/
  acknowledged : List PublishableFact
deriving DecidableEq, Repr

inductive RelayAction
  /-- A writer's transaction inserts a row. -/
  | insert (writer : Nat) (eventId : UniqueId) (fact : Fact)
  | commit (writer : Nat)
  | rollback (writer : Nat)
  /-- A relay begins a cycle. -/
  | claim (batchSize : Nat)
  | publish (index : Nat)
  /-- The broker appends the facts of a call. -/
  | append (call : Nat)
  | acknowledge (index : Nat)
  /-- Publishing failed or timed out; the cycle ends without a stamp. -/
  | giveUp (index : Nat)
  /-- Stamp the batch and commit. -/
  | stamp (index : Nat)
  /-- The relay dies or loses its connection. -/
  | crash (index : Nat)
deriving DecidableEq, Repr

namespace RelaySystem

/-- Nothing was written yet. -/
def initial : RelaySystem :=
  { rows := []
    nextSeq := 1
    cycles := []
    calls := []
    topic := []
    acknowledged := [] }

/-- An open cycle holds the row. -/
def Holds (system : RelaySystem) (row : OutboxRow) : Prop :=
  ∃ cycle ∈ system.cycles, row ∈ cycle.batch

instance (system : RelaySystem) (row : OutboxRow) : Decidable (system.Holds row) :=
  inferInstanceAs (Decidable (∃ cycle ∈ system.cycles, row ∈ cycle.batch))

/-- The rows a claim finds: unpublished and held by no open transaction. -/
def claimable (system : RelaySystem) : List OutboxRow :=
  system.rows.filter fun row =>
    row.committed = true ∧ row.published = false ∧ ¬ system.Holds row

/-- The rows a claim takes; the table is in the order of its sequence. -/
def batchOf (system : RelaySystem) (batchSize : Nat) : List OutboxRow :=
  system.claimable.take batchSize

/-- Insert a row with the next sequence number; event identifiers are unique. -/
def insert (system : RelaySystem) (writer : Nat) (eventId : UniqueId) (fact : Fact) :
    Option RelaySystem :=
  if eventId ∈ system.rows.map OutboxRow.eventId then
    none
  else
    some
      { system with
        rows := system.rows ++
          [{ seq := system.nextSeq
             eventId := eventId
             fact := fact
             writer := writer
             committed := false
             published := false }]
        nextSeq := system.nextSeq + 1 }

/-- The row once its writer has committed. -/
def commitRow (writer : Nat) (row : OutboxRow) : OutboxRow :=
  if row.writer = writer then { row with committed := true } else row

def commit (system : RelaySystem) (writer : Nat) : RelaySystem :=
  { system with rows := system.rows.map (commitRow writer) }

/-- Rows that were not committed go away. -/
def rollback (system : RelaySystem) (writer : Nat) : RelaySystem :=
  { system with
    rows := system.rows.filter fun row =>
      row.committed = true ∨ row.writer ≠ writer }

/-- A claim that finds nothing ends its cycle at once. -/
def claim (system : RelaySystem) (batchSize : Nat) : Option RelaySystem :=
  if batchSize = 0 ∨ system.batchOf batchSize = [] then
    none
  else
    some
      { system with
        cycles := system.cycles ++ [⟨system.batchOf batchSize, .claimed⟩] }

def publish (system : RelaySystem) (index : Nat) : Option RelaySystem :=
  match system.cycles[index]? with
  | some ⟨batch, .claimed⟩ =>
      some
        { system with
          cycles := system.cycles.set index ⟨batch, .publishing system.calls.length⟩
          calls := system.calls ++ [⟨batch.map OutboxRow.toPublishable, false⟩] }
  | _ => none

def append (system : RelaySystem) (call : Nat) : Option RelaySystem :=
  match system.calls[call]? with
  | some ⟨facts, false⟩ =>
      some
        { system with
          calls := system.calls.set call ⟨facts, true⟩
          topic := system.topic ++ facts }
  | _ => none

/-- The broker acknowledges what it has appended. -/
def acknowledge (system : RelaySystem) (index : Nat) : Option RelaySystem :=
  match system.cycles[index]? with
  | some ⟨batch, .publishing call⟩ =>
      match system.calls[call]? with
      | some ⟨facts, true⟩ =>
          some
            { system with
              cycles := system.cycles.set index ⟨batch, .acknowledged⟩
              acknowledged := system.acknowledged ++ facts }
      | _ => none
  | _ => none

/-- Close a cycle, giving up the rows it holds. -/
def closed (system : RelaySystem) (index : Nat) : RelaySystem :=
  { system with cycles := system.cycles.eraseIdx index }

def giveUp (system : RelaySystem) (index : Nat) : Option RelaySystem :=
  match system.cycles[index]? with
  | some ⟨_, .claimed⟩ | some ⟨_, .publishing _⟩ => some (system.closed index)
  | _ => none

/-- The row once its batch is stamped. -/
def stampRow (batch : List OutboxRow) (row : OutboxRow) : OutboxRow :=
  if row ∈ batch then { row with published := true } else row

def stamp (system : RelaySystem) (index : Nat) : Option RelaySystem :=
  match system.cycles[index]? with
  | some ⟨batch, .acknowledged⟩ =>
      some
        { system.closed index with
          rows := system.rows.map (stampRow batch) }
  | _ => none

def crash (system : RelaySystem) (index : Nat) : Option RelaySystem :=
  match system.cycles[index]? with
  | some _ => some (system.closed index)
  | none => none

def step : Step RelaySystem RelayAction
  | system, .insert writer eventId fact => system.insert writer eventId fact
  | system, .commit writer => some (system.commit writer)
  | system, .rollback writer => some (system.rollback writer)
  | system, .claim batchSize => system.claim batchSize
  | system, .publish index => system.publish index
  | system, .append call => system.append call
  | system, .acknowledge index => system.acknowledge index
  | system, .giveUp index => system.giveUp index
  | system, .stamp index => system.stamp index
  | system, .crash index => system.crash index

/-! ## What an action does -/

inductive Change (system : RelaySystem) : RelayAction → RelaySystem → Prop
  | inserted (writer : Nat) (eventId : UniqueId) (fact : Fact) (row : OutboxRow)
      (isNew : row = ⟨system.nextSeq, eventId, fact, writer, false, false⟩)
      (fresh : row.eventId ∉ system.rows.map OutboxRow.eventId) :
      Change system (.insert writer eventId fact)
        { system with rows := system.rows ++ [row], nextSeq := system.nextSeq + 1 }
  | committed (writer : Nat) :
      Change system (.commit writer)
        { system with rows := system.rows.map (commitRow writer) }
  | rolledBack (writer : Nat) :
      Change system (.rollback writer)
        { system with
          rows := system.rows.filter fun row =>
            row.committed = true ∨ row.writer ≠ writer }
  | claimed (batchSize : Nat) (positive : batchSize ≠ 0) :
      Change system (.claim batchSize)
        { system with
          cycles := system.cycles ++ [⟨system.batchOf batchSize, .claimed⟩] }
  | published (index : Nat) (batch : List OutboxRow)
      (found : system.cycles[index]? = some ⟨batch, .claimed⟩) :
      Change system (.publish index)
        { system with
          cycles := system.cycles.set index ⟨batch, .publishing system.calls.length⟩
          calls := system.calls ++ [⟨batch.map OutboxRow.toPublishable, false⟩] }
  | appended (call : Nat) (facts : List PublishableFact)
      (found : system.calls[call]? = some ⟨facts, false⟩) :
      Change system (.append call)
        { system with
          calls := system.calls.set call ⟨facts, true⟩
          topic := system.topic ++ facts }
  | acknowledged (index call : Nat) (batch : List OutboxRow)
      (facts : List PublishableFact)
      (found : system.cycles[index]? = some ⟨batch, .publishing call⟩)
      (sent : system.calls[call]? = some ⟨facts, true⟩) :
      Change system (.acknowledge index)
        { system with
          cycles := system.cycles.set index ⟨batch, .acknowledged⟩
          acknowledged := system.acknowledged ++ facts }
  | closed (action : RelayAction) (index : Nat)
      (ends : action = .giveUp index ∨ action = .crash index) :
      Change system action (system.closed index)
  | stamped (index : Nat) (batch : List OutboxRow)
      (found : system.cycles[index]? = some ⟨batch, .acknowledged⟩) :
      Change system (.stamp index)
        { system.closed index with rows := system.rows.map (stampRow batch) }

theorem step_change {system system' : RelaySystem} {action : RelayAction}
    (stepped : step system action = some system') : Change system action system' := by
  cases action with
  | insert writer eventId fact =>
      simp only [step, insert] at stepped
      split at stepped
      · cases stepped
      · rename_i fresh
        cases stepped
        exact .inserted writer eventId fact _ rfl fresh
  | commit writer =>
      cases stepped
      exact .committed writer
  | rollback writer =>
      cases stepped
      exact .rolledBack writer
  | claim batchSize =>
      simp only [step, claim] at stepped
      split at stepped
      · cases stepped
      · rename_i enabled
        cases stepped
        exact .claimed batchSize fun zero => enabled (Or.inl zero)
  | publish index =>
      simp only [step, publish] at stepped
      split at stepped
      · rename_i batch found
        cases stepped
        exact .published index batch found
      · cases stepped
  | append call =>
      simp only [step, append] at stepped
      split at stepped
      · rename_i facts found
        cases stepped
        exact .appended call facts found
      · cases stepped
  | acknowledge index =>
      simp only [step, acknowledge] at stepped
      split at stepped
      · rename_i batch call found
        split at stepped
        · rename_i facts sent
          cases stepped
          exact .acknowledged index call batch facts found sent
        · cases stepped
      · cases stepped
  | giveUp index =>
      simp only [step, giveUp] at stepped
      split at stepped
      · cases stepped
        exact .closed _ index (Or.inl rfl)
      · cases stepped
        exact .closed _ index (Or.inl rfl)
      · cases stepped
  | stamp index =>
      simp only [step, stamp] at stepped
      split at stepped
      · rename_i batch found
        cases stepped
        exact .stamped index batch found
      · cases stepped
  | crash index =>
      simp only [step, crash] at stepped
      split at stepped
      · cases stepped
        exact .closed _ index (Or.inr rfl)
      · cases stepped

end RelaySystem

end OrderToCash.Outbox
