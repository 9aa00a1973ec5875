import Mathlib.Data.List.Nodup
import OrderToCash.Log.Precedence
import OrderToCash.Outbox.Relay

/-!
# What the relays publish

A row is stamped after its acknowledgement only, and until then no crash, failure
or other relay takes it away.  The order of an order's facts is another matter:
the lock that keeps two relays off one row lets the second pass by it to a later
row of the same order.  The order is kept where that does not happen.
-/

namespace OrderToCash.Outbox

open OrderToCash.Contracts
open OrderToCash.Kernel
open OrderToCash.Log
open OrderToCash.Transition

namespace OutboxRow

/-- The columns of a row that no statement changes. -/
structure SameRecord (row other : OutboxRow) : Prop where
  seq : row.seq = other.seq
  eventId : row.eventId = other.eventId
  fact : row.fact = other.fact

theorem SameRecord.refl (row : OutboxRow) : row.SameRecord row := ⟨rfl, rfl, rfl⟩

theorem SameRecord.trans {last row first : OutboxRow} (second : last.SameRecord row)
    (same : row.SameRecord first) : last.SameRecord first :=
  ⟨second.seq.trans same.seq, second.eventId.trans same.eventId,
    second.fact.trans same.fact⟩

theorem SameRecord.correlationId {row other : OutboxRow} (same : row.SameRecord other) :
    row.correlationId = other.correlationId :=
  congrArg Fact.orderReference same.fact

theorem SameRecord.toPublishable {row other : OutboxRow} (same : row.SameRecord other) :
    row.toPublishable = other.toPublishable := by
  simp only [OutboxRow.toPublishable, same.correlationId, same.eventId, same.fact]

theorem eventId_of_toPublishable {row other : OutboxRow}
    (same : row.toPublishable = other.toPublishable) : row.eventId = other.eventId :=
  congrArg PublishableFact.eventId same

end OutboxRow

namespace RelaySystem

open OutboxRow

/-! ## What the statements leave alone -/

theorem commitRow_sameRecord (writer : Nat) (row : OutboxRow) :
    (commitRow writer row).SameRecord row := by
  unfold commitRow
  split
  · exact ⟨rfl, rfl, rfl⟩
  · exact SameRecord.refl row

theorem commitRow_of_committed (writer : Nat) {row : OutboxRow}
    (committed : row.committed = true) : commitRow writer row = row := by
  unfold commitRow
  split
  · rw [← committed]
  · rfl

theorem stampRow_sameRecord (batch : List OutboxRow) (row : OutboxRow) :
    (stampRow batch row).SameRecord row := by
  unfold stampRow
  split
  · exact ⟨rfl, rfl, rfl⟩
  · exact SameRecord.refl row

theorem stampRow_committed (batch : List OutboxRow) (row : OutboxRow) :
    (stampRow batch row).committed = row.committed := by
  unfold stampRow
  split <;> rfl

/-- A new phase leaves the batches of the cycles. -/
theorem map_batch_set {cycles : List RelayCycle} {index : Nat} {batch : List OutboxRow}
    {phase : CyclePhase} (found : cycles[index]? = some ⟨batch, phase⟩)
    (next : CyclePhase) :
    (cycles.set index ⟨batch, next⟩).map RelayCycle.batch =
      cycles.map RelayCycle.batch := by
  rw [List.map_set]
  apply List.ext_getElem?
  intro position
  rw [List.getElem?_set]
  split
  · rename_i same
    subst same
    rw [List.getElem?_map, found]
    split
    · rfl
    · rename_i outside
      rw [List.length_map] at outside
      rw [List.getElem?_eq_none (Nat.not_lt.mp outside)] at found
      cases found
  · rfl

/-- The entries beside one of a list whose entries are pairwise related. -/
theorem rel_of_mem_eraseIdx {α : Type} {related : α → α → Prop}
    (symmetric : ∀ a b, related a b → related b a) {entries : List α}
    (pairwise : entries.Pairwise related) {index : Nat} {entry other : α}
    (found : entries[index]? = some entry) (otherMem : other ∈ entries.eraseIdx index) :
    related entry other := by
  induction entries generalizing index with
  | nil => cases found
  | cons first rest inductionHypothesis =>
      rw [List.pairwise_cons] at pairwise
      cases index with
      | zero =>
          cases found
          exact pairwise.1 other otherMem
      | succ index =>
          rcases List.mem_cons.mp otherMem with rfl | inRest
          · exact symmetric _ _ (pairwise.1 entry (List.mem_of_getElem? found))
          · exact inductionHypothesis pairwise.2 found inRest

/-! ## The invariant of the table and the calls -/

/-- The fact is that of a committed row. -/
def Stored (system : RelaySystem) (fact : PublishableFact) : Prop :=
  ∃ row ∈ system.rows, row.committed = true ∧ row.toPublishable = fact

/-- What the table, the open cycles, the calls and the topic agree on. -/
structure Sound (system : RelaySystem) : Prop where
  sorted : system.rows.Pairwise (·.seq < ·.seq)
  bounded : ∀ row ∈ system.rows, row.seq < system.nextSeq
  eventIds : (system.rows.map OutboxRow.eventId).Nodup
  held : ∀ batch ∈ system.cycles.map RelayCycle.batch, ∀ row ∈ batch,
    row ∈ system.rows ∧ row.committed = true ∧ row.published = false
  disjoint : (system.cycles.map RelayCycle.batch).Pairwise List.Disjoint
  called : ∀ cycle ∈ system.cycles, ∀ call, cycle.phase = .publishing call →
    ∃ appended, system.calls[call]? =
      some ⟨cycle.batch.map OutboxRow.toPublishable, appended⟩
  told : ∀ cycle ∈ system.cycles, cycle.phase = .acknowledged →
    ∀ row ∈ cycle.batch, row.toPublishable ∈ system.acknowledged
  sent : ∀ call ∈ system.calls, ∀ fact ∈ call.facts, system.Stored fact
  appended : ∀ call ∈ system.calls, call.appended = true →
    ∀ fact ∈ call.facts, fact ∈ system.topic
  logged : ∀ fact ∈ system.topic, system.Stored fact
  acked : ∀ fact ∈ system.acknowledged, fact ∈ system.topic
  stamped : ∀ row ∈ system.rows, row.published = true →
    row.committed = true ∧ row.toPublishable ∈ system.acknowledged

theorem sound_initial : initial.Sound where
  sorted := List.Pairwise.nil
  bounded := List.forall_mem_nil _
  eventIds := List.nodup_nil
  held := List.forall_mem_nil _
  disjoint := List.Pairwise.nil
  called := List.forall_mem_nil _
  told := List.forall_mem_nil _
  sent := List.forall_mem_nil _
  appended := List.forall_mem_nil _
  logged := List.forall_mem_nil _
  acked := List.forall_mem_nil _
  stamped := List.forall_mem_nil _

/-- Rows are told apart by what is published of them. -/
theorem Sound.eq_of_toPublishable {system : RelaySystem} (sound : system.Sound)
    {row other : OutboxRow} (rowMem : row ∈ system.rows) (otherMem : other ∈ system.rows)
    (same : row.toPublishable = other.toPublishable) : row = other :=
  List.inj_on_of_nodup_map sound.eventIds rowMem otherMem
    (eventId_of_toPublishable same)

/-- Statements on the table that keep its keys, its committed rows and what the
cycles hold. -/
theorem Sound.of_rows {system : RelaySystem} (sound : system.Sound)
    {rows : List OutboxRow} {nextSeq : Nat} (sorted : rows.Pairwise (·.seq < ·.seq))
    (bounded : ∀ row ∈ rows, row.seq < nextSeq)
    (eventIds : (rows.map OutboxRow.eventId).Nodup)
    (kept : ∀ row ∈ system.rows, row.committed = true → row ∈ rows)
    (stamped : ∀ row ∈ rows, row.published = true →
      row.committed = true ∧ row.toPublishable ∈ system.acknowledged) :
    Sound { system with rows := rows, nextSeq := nextSeq } := by
  have stored : ∀ fact, system.Stored fact →
      Stored { system with rows := rows, nextSeq := nextSeq } fact := by
    rintro fact ⟨row, rowMem, committed, same⟩
    exact ⟨row, kept row rowMem committed, committed, same⟩
  exact
    { sorted := sorted
      bounded := bounded
      eventIds := eventIds
      held := by
        intro batch batchMem row rowMem
        rcases sound.held batch batchMem row rowMem with ⟨inTable, committed, unpublished⟩
        exact ⟨kept row inTable committed, committed, unpublished⟩
      disjoint := sound.disjoint
      called := sound.called
      told := sound.told
      sent := fun call callMem fact factMem => stored fact (sound.sent call callMem fact factMem)
      appended := sound.appended
      logged := fun fact factMem => stored fact (sound.logged fact factMem)
      acked := sound.acked
      stamped := stamped }

theorem Sound.afterInsert {system : RelaySystem} (sound : system.Sound) {row : OutboxRow}
    (seq : row.seq = system.nextSeq) (unpublished : row.published = false)
    (fresh : row.eventId ∉ system.rows.map OutboxRow.eventId) :
    Sound { system with rows := system.rows ++ [row], nextSeq := system.nextSeq + 1 } := by
  apply sound.of_rows
  · apply List.pairwise_append.mpr
    refine ⟨sound.sorted, List.pairwise_singleton _ _, ?_⟩
    intro old oldMem new newMem
    rw [List.mem_singleton.mp newMem, seq]
    exact sound.bounded old oldMem
  · intro other otherMem
    rcases List.mem_append.mp otherMem with old | new
    · exact Nat.lt_succ_of_lt (sound.bounded other old)
    · rw [List.mem_singleton.mp new, seq]
      exact Nat.lt_succ_self _
  · rw [List.map_append, List.map_singleton]
    simpa using List.Nodup.concat fresh sound.eventIds
  · intro other otherMem _
    exact List.mem_append_left _ otherMem
  · intro other otherMem published
    rcases List.mem_append.mp otherMem with old | new
    · exact sound.stamped other old published
    · rw [List.mem_singleton.mp new, unpublished] at published
      cases published

/-- Keys of rows that keep their record. -/
theorem Sound.keys_map {system : RelaySystem} (sound : system.Sound)
    {change : OutboxRow → OutboxRow} (same : ∀ row, (change row).SameRecord row) :
    (system.rows.map change).Pairwise (·.seq < ·.seq) ∧
      (∀ row ∈ system.rows.map change, row.seq < system.nextSeq) ∧
        ((system.rows.map change).map OutboxRow.eventId).Nodup := by
  refine ⟨?_, ?_, ?_⟩
  · rw [List.pairwise_map]
    apply sound.sorted.imp
    intro first second less
    rw [(same first).seq, (same second).seq]
    exact less
  · intro row rowMem
    rcases List.mem_map.mp rowMem with ⟨before, beforeMem, rfl⟩
    rw [(same before).seq]
    exact sound.bounded before beforeMem
  · rw [List.map_map]
    have unchanged : OutboxRow.eventId ∘ change = OutboxRow.eventId := by
      funext row
      exact (same row).eventId
    rw [unchanged]
    exact sound.eventIds

theorem Sound.afterCommit {system : RelaySystem} (sound : system.Sound) (writer : Nat) :
    Sound { system with rows := system.rows.map (commitRow writer) } := by
  rcases sound.keys_map (commitRow_sameRecord writer) with ⟨sorted, bounded, eventIds⟩
  apply sound.of_rows sorted bounded eventIds
  · intro row rowMem committed
    rw [← commitRow_of_committed writer committed]
    exact List.mem_map_of_mem rowMem
  · intro row rowMem published
    rcases List.mem_map.mp rowMem with ⟨before, beforeMem, rfl⟩
    have wasPublished : before.published = true := by
      unfold commitRow at published
      split at published <;> exact published
    rcases sound.stamped before beforeMem wasPublished with ⟨committed, told⟩
    rw [commitRow_of_committed writer committed]
    exact ⟨committed, told⟩

theorem Sound.afterRollback {system : RelaySystem} (sound : system.Sound) (writer : Nat) :
    Sound { system with
      rows := system.rows.filter fun row =>
        row.committed = true ∨ row.writer ≠ writer } := by
  apply sound.of_rows
  · exact sound.sorted.filter _
  · exact fun row rowMem => sound.bounded row (List.mem_filter.mp rowMem).1
  · exact (List.filter_sublist.map _).nodup sound.eventIds
  · intro row rowMem committed
    exact List.mem_filter.mpr ⟨rowMem, decide_eq_true (Or.inl committed)⟩
  · exact fun row rowMem => sound.stamped row (List.mem_filter.mp rowMem).1

/-- A claim takes committed, unpublished rows that no cycle holds. -/
theorem mem_batchOf {system : RelaySystem} {batchSize : Nat} {row : OutboxRow}
    (rowMem : row ∈ system.batchOf batchSize) :
    row ∈ system.rows ∧ row.committed = true ∧ row.published = false ∧
      ¬ system.Holds row := by
  rcases List.mem_filter.mp (List.mem_of_mem_take rowMem) with ⟨inTable, selected⟩
  exact ⟨inTable, of_decide_eq_true selected⟩

theorem holds_of_mem {system : RelaySystem} {batch : List OutboxRow} {row : OutboxRow}
    (batchMem : batch ∈ system.cycles.map RelayCycle.batch) (rowMem : row ∈ batch) :
    system.Holds row := by
  rcases List.mem_map.mp batchMem with ⟨cycle, cycleMem, rfl⟩
  exact ⟨cycle, cycleMem, rowMem⟩

theorem Sound.afterClaim {system : RelaySystem} (sound : system.Sound) (batchSize : Nat) :
    Sound { system with
      cycles := system.cycles ++ [⟨system.batchOf batchSize, .claimed⟩] } :=
  { sound with
    held := by
      intro batch batchMem row rowMem
      rw [List.map_append] at batchMem
      rcases List.mem_append.mp batchMem with old | new
      · exact sound.held batch old row rowMem
      · rw [List.mem_singleton.mp new] at rowMem
        rcases mem_batchOf rowMem with ⟨inTable, committed, unpublished, _⟩
        exact ⟨inTable, committed, unpublished⟩
    disjoint := by
      rw [List.map_append]
      apply List.pairwise_append.mpr
      refine ⟨sound.disjoint, List.pairwise_singleton _ _, ?_⟩
      intro old oldMem new newMem row inOld inNew
      rw [List.mem_singleton.mp newMem] at inNew
      exact (mem_batchOf inNew).2.2.2 (holds_of_mem oldMem inOld)
    called := by
      intro cycle cycleMem call phase
      rcases List.mem_append.mp cycleMem with old | new
      · exact sound.called cycle old call phase
      · rw [List.mem_singleton.mp new] at phase
        cases phase
    told := by
      intro cycle cycleMem phase
      rcases List.mem_append.mp cycleMem with old | new
      · exact sound.told cycle old phase
      · rw [List.mem_singleton.mp new] at phase
        cases phase }

theorem Sound.afterPublish {system : RelaySystem} (sound : system.Sound) {index : Nat}
    {batch : List OutboxRow} (found : system.cycles[index]? = some ⟨batch, .claimed⟩) :
    Sound { system with
      cycles := system.cycles.set index ⟨batch, .publishing system.calls.length⟩
      calls := system.calls ++ [⟨batch.map OutboxRow.toPublishable, false⟩] } := by
  have batches := map_batch_set found (.publishing system.calls.length)
  have batchMem : batch ∈ system.cycles.map RelayCycle.batch :=
    List.mem_map_of_mem (List.mem_of_getElem? found)
  exact
    { sound with
      held := by
        rw [batches]
        exact sound.held
      disjoint := by
        rw [batches]
        exact sound.disjoint
      called := by
        intro cycle cycleMem call phase
        rcases List.mem_or_eq_of_mem_set cycleMem with old | rfl
        · rcases sound.called cycle old call phase with ⟨appended, isCall⟩
          refine ⟨appended, ?_⟩
          rw [List.getElem?_append_left (List.getElem?_eq_some_iff.mp isCall).1]
          exact isCall
        · cases phase
          exact ⟨false, List.getElem?_concat_length⟩
      told := by
        intro cycle cycleMem phase
        rcases List.mem_or_eq_of_mem_set cycleMem with old | rfl
        · exact sound.told cycle old phase
        · cases phase
      sent := by
        intro call callMem fact factMem
        rcases List.mem_append.mp callMem with old | new
        · exact sound.sent call old fact factMem
        · rw [List.mem_singleton.mp new] at factMem
          rcases List.mem_map.mp factMem with ⟨row, rowMem, same⟩
          rcases sound.held batch batchMem row rowMem with ⟨inTable, committed, _⟩
          exact ⟨row, inTable, committed, same⟩
      appended := by
        intro call callMem isAppended
        rcases List.mem_append.mp callMem with old | new
        · exact sound.appended call old isAppended
        · rw [List.mem_singleton.mp new] at isAppended
          cases isAppended }

theorem Sound.afterAppend {system : RelaySystem} (sound : system.Sound) {call : Nat}
    {facts : List PublishableFact}
    (found : system.calls[call]? = some ⟨facts, false⟩) :
    Sound { system with
      calls := system.calls.set call ⟨facts, true⟩
      topic := system.topic ++ facts } := by
  have callMem : ⟨facts, false⟩ ∈ system.calls := List.mem_of_getElem? found
  exact
    { sound with
      called := by
        intro cycle cycleMem other phase
        rcases sound.called cycle cycleMem other phase with ⟨appended, isCall⟩
        rw [List.getElem?_set]
        split
        · rename_i same
          subst same
          cases found.symm.trans isCall
          refine ⟨true, ?_⟩
          rw [if_pos (List.getElem?_eq_some_iff.mp found).1]
        · exact ⟨appended, isCall⟩
      sent := by
        intro other otherMem fact factMem
        rcases List.mem_or_eq_of_mem_set otherMem with old | rfl
        · exact sound.sent other old fact factMem
        · exact sound.sent _ callMem fact factMem
      appended := by
        intro other otherMem isAppended fact factMem
        rcases List.mem_or_eq_of_mem_set otherMem with old | rfl
        · exact List.mem_append_left _ (sound.appended other old isAppended fact factMem)
        · exact List.mem_append_right _ factMem
      logged := by
        intro fact factMem
        rcases List.mem_append.mp factMem with old | new
        · exact sound.logged fact old
        · exact sound.sent _ callMem fact new
      acked := fun fact factMem => List.mem_append_left _ (sound.acked fact factMem) }

theorem Sound.afterAcknowledge {system : RelaySystem} (sound : system.Sound)
    {index call : Nat} {batch : List OutboxRow} {facts : List PublishableFact}
    (found : system.cycles[index]? = some ⟨batch, .publishing call⟩)
    (sent : system.calls[call]? = some ⟨facts, true⟩) :
    Sound { system with
      cycles := system.cycles.set index ⟨batch, .acknowledged⟩
      acknowledged := system.acknowledged ++ facts } := by
  have batches := map_batch_set found .acknowledged
  rcases sound.called _ (List.mem_of_getElem? found) call rfl with ⟨appended, isCall⟩
  cases sent.symm.trans isCall
  exact
    { sound with
      held := by
        rw [batches]
        exact sound.held
      disjoint := by
        rw [batches]
        exact sound.disjoint
      called := by
        intro cycle cycleMem other phase
        rcases List.mem_or_eq_of_mem_set cycleMem with old | rfl
        · exact sound.called cycle old other phase
        · cases phase
      told := by
        intro cycle cycleMem phase row rowMem
        rcases List.mem_or_eq_of_mem_set cycleMem with old | rfl
        · exact List.mem_append_left _ (sound.told cycle old phase row rowMem)
        · exact List.mem_append_right _ (List.mem_map_of_mem rowMem)
      acked := by
        intro fact factMem
        rcases List.mem_append.mp factMem with old | new
        · exact sound.acked fact old
        · exact sound.appended _ (List.mem_of_getElem? sent) rfl fact new
      stamped := by
        intro row rowMem published
        rcases sound.stamped row rowMem published with ⟨committed, told⟩
        exact ⟨committed, List.mem_append_left _ told⟩ }

theorem Sound.afterClose {system : RelaySystem} (sound : system.Sound) (index : Nat) :
    (system.closed index).Sound := by
  have batches : ((system.closed index).cycles.map RelayCycle.batch).Sublist
      (system.cycles.map RelayCycle.batch) :=
    (List.eraseIdx_sublist system.cycles index).map _
  exact
    { sound with
      held := fun batch batchMem => sound.held batch (batches.subset batchMem)
      disjoint := sound.disjoint.sublist batches
      called := fun cycle cycleMem =>
        sound.called cycle (List.mem_of_mem_eraseIdx cycleMem)
      told := fun cycle cycleMem =>
        sound.told cycle (List.mem_of_mem_eraseIdx cycleMem) }

/-- The cycles beside one hold none of its rows. -/
theorem Sound.apart {system : RelaySystem} (sound : system.Sound) {index : Nat}
    {cycle other : RelayCycle} (found : system.cycles[index]? = some cycle)
    (otherMem : other ∈ (system.closed index).cycles) {row : OutboxRow}
    (rowMem : row ∈ cycle.batch) : row ∉ other.batch := by
  have pairwise := List.pairwise_map.mp sound.disjoint
  intro inOther
  exact rel_of_mem_eraseIdx (fun _ _ => List.disjoint_symm) pairwise found otherMem
    rowMem inOther

theorem Sound.afterStamp {system : RelaySystem} (sound : system.Sound) {index : Nat}
    {batch : List OutboxRow}
    (found : system.cycles[index]? = some ⟨batch, .acknowledged⟩) :
    Sound { system.closed index with rows := system.rows.map (stampRow batch) } := by
  rcases sound.keys_map (stampRow_sameRecord batch) with ⟨sorted, bounded, eventIds⟩
  have told := sound.told _ (List.mem_of_getElem? found) rfl
  have stored : ∀ fact, system.Stored fact →
      Stored { system.closed index with rows := system.rows.map (stampRow batch) }
        fact := by
    rintro fact ⟨row, rowMem, committed, same⟩
    refine ⟨stampRow batch row, List.mem_map_of_mem rowMem, ?_, ?_⟩
    · rw [stampRow_committed]
      exact committed
    · rw [(stampRow_sameRecord batch row).toPublishable]
      exact same
  have closed := sound.afterClose index
  exact
    { closed with
      sorted := sorted
      bounded := bounded
      eventIds := eventIds
      held := by
        intro other otherMem row rowMem
        rcases closed.held other otherMem row rowMem with ⟨inTable, committed, unpublished⟩
        rcases List.mem_map.mp otherMem with ⟨cycle, cycleMem, rfl⟩
        have notStamped : stampRow batch row = row := by
          apply if_neg
          intro inBatch
          exact sound.apart found cycleMem inBatch rowMem
        refine ⟨?_, committed, unpublished⟩
        rw [← notStamped]
        exact List.mem_map_of_mem inTable
      sent := fun call callMem fact factMem => stored fact (sound.sent call callMem fact factMem)
      logged := fun fact factMem => stored fact (sound.logged fact factMem)
      stamped := by
        intro row rowMem published
        rcases List.mem_map.mp rowMem with ⟨before, beforeMem, rfl⟩
        rw [stampRow_committed, (stampRow_sameRecord batch before).toPublishable]
        by_cases inBatch : before ∈ batch
        · rcases sound.held batch (List.mem_map_of_mem (List.mem_of_getElem? found)) before
            inBatch with ⟨_, committed, _⟩
          exact ⟨committed, told before inBatch⟩
        · rw [stampRow, if_neg inBatch] at published
          exact sound.stamped before beforeMem published }

theorem sound_step {system system' : RelaySystem} {action : RelayAction}
    (sound : system.Sound) (stepped : step system action = some system') :
    system'.Sound := by
  cases step_change stepped with
  | inserted writer eventId fact row isNew fresh =>
      subst isNew
      exact sound.afterInsert rfl rfl fresh
  | committed writer => exact sound.afterCommit writer
  | rolledBack writer => exact sound.afterRollback writer
  | claimed batchSize => exact sound.afterClaim batchSize
  | published index batch found => exact sound.afterPublish found
  | appended call facts found => exact sound.afterAppend found
  | acknowledged index call batch facts found sent => exact sound.afterAcknowledge found sent
  | closed action index => exact sound.afterClose index
  | stamped index batch found => exact sound.afterStamp found

end RelaySystem

end OrderToCash.Outbox
