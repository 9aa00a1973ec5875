import OrderToCash.Outbox.Publication

/-!
# The order of an order's facts

Two relays never hold one row, but they may hold rows of one order, and then the
facts of the order are published in whatever order the relays get to it.  They
are published in the order of their sequence as long as no relay claims a row
past an earlier row of its order that another open transaction holds.
-/

namespace OrderToCash.Outbox

open OrderToCash.Contracts
open OrderToCash.Kernel
open OrderToCash.Log
open OrderToCash.Transition

namespace RelaySystem

open OutboxRow

/-- The second fact is of a later row of the same order. -/
def Precedes (system : RelaySystem) (first second : PublishableFact) : Prop :=
  ∃ earlier ∈ system.rows, ∃ later ∈ system.rows,
    earlier.toPublishable = first ∧ later.toPublishable = second ∧
      earlier.correlationId = later.correlationId ∧ earlier.seq < later.seq

/-- No row is claimed past an earlier row of its order that another open
transaction holds: a relay's, or a writer's that has not committed. -/
def PassesNoEarlierRow : Guard RelaySystem RelayAction
  | system, .claim batchSize =>
      ∀ row ∈ system.batchOf batchSize, ∀ earlier ∈ system.rows,
        earlier.correlationId = row.correlationId → earlier.seq < row.seq →
          earlier.committed = true ∧ ¬ system.Holds earlier
  | _, _ => True

instance (system : RelaySystem) (action : RelayAction) :
    Decidable (PassesNoEarlierRow system action) := by
  cases action <;> unfold PassesNoEarlierRow <;> infer_instance

/-- The topic, the calls and the batches respect the sequence of every order. -/
structure Ordered (system : RelaySystem) : Prop where
  topic : InOrder system.Precedes system.topic
  batches : ∀ batch ∈ system.cycles.map RelayCycle.batch,
    Preceded system.Precedes system.topic (batch.map OutboxRow.toPublishable)
  calls : ∀ call ∈ system.calls,
    Preceded system.Precedes system.topic call.facts

theorem ordered_initial : initial.Ordered where
  topic := InOrder.nil
  batches := List.forall_mem_nil _
  calls := List.forall_mem_nil _

theorem stored_of_held {system : RelaySystem} (sound : system.Sound)
    {batch : List OutboxRow} (batchMem : batch ∈ system.cycles.map RelayCycle.batch)
    {fact : PublishableFact} (factMem : fact ∈ batch.map OutboxRow.toPublishable) :
    system.Stored fact := by
  rcases List.mem_map.mp factMem with ⟨row, rowMem, same⟩
  rcases sound.held batch batchMem row rowMem with ⟨inTable, committed, _⟩
  exact ⟨row, inTable, committed, same⟩

/-- Statements on the table that put no row before a stored one. -/
theorem Ordered.of_rows {system system' : RelaySystem} (ordered : system.Ordered)
    (sound : system.Sound) (topic : system'.topic = system.topic)
    (batches : ∀ batch ∈ system'.cycles.map RelayCycle.batch,
      batch ∈ system.cycles.map RelayCycle.batch)
    (calls : system'.calls = system.calls)
    (precedes : ∀ first second, system.Stored second →
      system'.Precedes first second → system.Precedes first second) :
    system'.Ordered where
  topic := by
    rw [topic]
    exact ordered.topic.mono fun first second secondMem =>
      precedes first second (sound.logged second secondMem)
  batches := by
    intro batch batchMem
    rw [topic]
    exact (ordered.batches batch (batches batch batchMem)).mono
      (fun first second secondMem =>
        precedes first second (stored_of_held sound (batches batch batchMem) secondMem))
      fun _ logged => logged
  calls := by
    intro call callMem
    rw [calls] at callMem
    rw [topic]
    exact (ordered.calls call callMem).mono
      (fun first second secondMem =>
        precedes first second (sound.sent call callMem second secondMem))
      fun _ logged => logged

/-- A new row precedes nothing, and is preceded by what is not published. -/
theorem precedes_of_inserted {system : RelaySystem} (sound : system.Sound)
    {row : OutboxRow} (seq : row.seq = system.nextSeq)
    (fresh : row.eventId ∉ system.rows.map OutboxRow.eventId)
    {first second : PublishableFact} (stored : system.Stored second)
    (precedes : Precedes { system with
      rows := system.rows ++ [row], nextSeq := system.nextSeq + 1 } first second) :
    system.Precedes first second := by
  rcases precedes with
    ⟨earlier, earlierMem, later, laterMem, isFirst, isSecond, sameOrder, less⟩
  rcases stored with ⟨other, otherMem, _, isOther⟩
  have laterOld : later ∈ system.rows := by
    rcases List.mem_append.mp laterMem with old | new
    · exact old
    · have same := eventId_of_toPublishable (isOther.trans isSecond.symm)
      rw [List.mem_singleton.mp new] at same
      exact absurd (same ▸ List.mem_map_of_mem otherMem) fresh
  have earlierOld : earlier ∈ system.rows := by
    rcases List.mem_append.mp earlierMem with old | new
    · exact old
    · rw [List.mem_singleton.mp new, seq] at less
      exact absurd (sound.bounded later laterOld) (Nat.not_lt.mpr (Nat.le_of_lt less))
  exact ⟨earlier, earlierOld, later, laterOld, isFirst, isSecond, sameOrder, less⟩

/-- Changes that keep the record of every row keep their order. -/
theorem precedes_of_map {system system' : RelaySystem}
    {change : OutboxRow → OutboxRow} (same : ∀ row, (change row).SameRecord row)
    (rows : system'.rows = system.rows.map change) {first second : PublishableFact}
    (precedes : system'.Precedes first second) : system.Precedes first second := by
  rcases precedes with
    ⟨earlier, earlierMem, later, laterMem, isFirst, isSecond, sameOrder, less⟩
  rw [rows] at earlierMem laterMem
  rcases List.mem_map.mp earlierMem with ⟨earlier, earlierWas, rfl⟩
  rcases List.mem_map.mp laterMem with ⟨later, laterWas, rfl⟩
  rw [(same earlier).toPublishable] at isFirst
  rw [(same later).toPublishable] at isSecond
  rw [(same earlier).correlationId, (same later).correlationId] at sameOrder
  rw [(same earlier).seq, (same later).seq] at less
  exact ⟨earlier, earlierWas, later, laterWas, isFirst, isSecond, sameOrder, less⟩

theorem precedes_of_subset {system system' : RelaySystem}
    (subset : ∀ row ∈ system'.rows, row ∈ system.rows) {first second : PublishableFact}
    (precedes : system'.Precedes first second) : system.Precedes first second := by
  rcases precedes with
    ⟨earlier, earlierMem, later, laterMem, isFirst, isSecond, sameOrder, less⟩
  exact ⟨earlier, subset earlier earlierMem, later, subset later laterMem, isFirst,
    isSecond, sameOrder, less⟩

/-- A batch that passes no earlier row has what precedes its rows before them, or
it is published. -/
theorem preceded_of_claim {system : RelaySystem} (sound : system.Sound) {batchSize : Nat}
    (passesNone : PassesNoEarlierRow system (.claim batchSize)) :
    Preceded system.Precedes system.topic
      ((system.batchOf batchSize).map OutboxRow.toPublishable) := by
  rintro before second after split first
    ⟨earlier, earlierMem, later, laterMem, rfl, rfl, sameOrder, less⟩
  rcases List.map_eq_append_iff.mp split with ⟨taken, rest, batch, rfl, isRest⟩
  rcases List.map_eq_cons_iff.mp isRest with ⟨row, remaining, rfl, same, _⟩
  have rowMem : row ∈ system.batchOf batchSize := by
    rw [batch]
    exact List.mem_append_right _ List.mem_cons_self
  cases sound.eq_of_toPublishable (mem_batchOf rowMem).1 laterMem same
  rcases passesNone later rowMem earlier earlierMem sameOrder less with
    ⟨committed, notHeld⟩
  by_cases published : earlier.published = true
  · exact Or.inl (sound.acked _ (sound.stamped earlier earlierMem published).2)
  · right
    apply List.mem_map_of_mem
    have claimable : earlier ∈ system.claimable :=
      List.mem_filter.mpr ⟨earlierMem, decide_eq_true
        ⟨committed, Bool.eq_false_iff.mpr published, notHeld⟩⟩
    have whole : system.claimable =
        taken ++ later :: (remaining ++ system.claimable.drop batchSize) := by
      rw [← List.cons_append, ← List.append_assoc, ← batch]
      exact (List.take_append_drop batchSize system.claimable).symm
    have sorted : system.claimable.Pairwise (·.seq < ·.seq) := sound.sorted.filter _
    rw [whole] at sorted claimable
    exact mem_before_of_sorted (fun _ _ less => Nat.not_lt.mpr (Nat.le_of_lt less))
      sorted claimable less

theorem ordered_step {system system' : RelaySystem} {action : RelayAction}
    (sound : system.Sound) (ordered : system.Ordered)
    (passesNone : PassesNoEarlierRow system action)
    (stepped : step system action = some system') : system'.Ordered := by
  have logged : ∀ facts : List PublishableFact, ∀ fact ∈ system.topic,
      fact ∈ system.topic ++ facts := fun _ _ factMem => List.mem_append_left _ factMem
  cases step_change stepped with
  | inserted writer eventId fact row isNew fresh =>
      subst isNew
      exact ordered.of_rows sound rfl (fun _ batchMem => batchMem) rfl
        fun _ _ stored => precedes_of_inserted sound rfl fresh stored
  | committed writer =>
      exact ordered.of_rows sound rfl (fun _ batchMem => batchMem) rfl
        fun _ _ _ => precedes_of_map (commitRow_sameRecord writer) rfl
  | rolledBack writer =>
      exact ordered.of_rows sound rfl (fun _ batchMem => batchMem) rfl
        fun _ _ _ => precedes_of_subset fun _ rowMem => (List.mem_filter.mp rowMem).1
  | claimed batchSize =>
      refine ⟨ordered.topic, fun batch batchMem => ?_, ordered.calls⟩
      rw [List.map_append] at batchMem
      rcases List.mem_append.mp batchMem with old | new
      · exact ordered.batches batch old
      · rw [List.mem_singleton.mp new]
        exact preceded_of_claim sound passesNone
  | published index batch found =>
      have batches := map_batch_set found (.publishing system.calls.length)
      have batchMem : batch ∈ system.cycles.map RelayCycle.batch :=
        List.mem_map_of_mem (List.mem_of_getElem? found)
      refine ⟨ordered.topic, ?_, fun call callMem => ?_⟩
      · rw [batches]
        exact ordered.batches
      · rcases List.mem_append.mp callMem with old | new
        · exact ordered.calls call old
        · rw [List.mem_singleton.mp new]
          exact ordered.batches batch batchMem
  | appended call facts found =>
      have sent := ordered.calls _ (List.mem_of_getElem? found)
      refine ⟨ordered.topic.append sent, fun batch batchMem => ?_,
        fun other otherMem => ?_⟩
      · exact (ordered.batches batch batchMem).mono (fun _ _ _ precedes => precedes)
          (logged facts)
      · rcases List.mem_or_eq_of_mem_set otherMem with old | rfl
        · exact (ordered.calls other old).mono (fun _ _ _ precedes => precedes)
            (logged facts)
        · exact sent.mono (fun _ _ _ precedes => precedes) (logged facts)
  | acknowledged index call batch facts found sent =>
      have batches := map_batch_set found .acknowledged
      refine ⟨ordered.topic, ?_, ordered.calls⟩
      rw [batches]
      exact ordered.batches
  | closed action index =>
      refine ⟨ordered.topic, fun batch batchMem => ?_, ordered.calls⟩
      exact ordered.batches batch
        (((List.eraseIdx_sublist system.cycles index).map _).subset batchMem)
  | stamped index batch found =>
      exact ordered.of_rows sound rfl
        (fun _ batchMem =>
          ((List.eraseIdx_sublist system.cycles index).map _).subset batchMem)
        rfl fun _ _ _ => precedes_of_map (stampRow_sameRecord batch) rfl

theorem ordered_of_reachable {system : RelaySystem}
    (reached : Reachable step PassesNoEarlierRow initial system) : system.Ordered := by
  have both : system.Sound ∧ system.Ordered := by
    induction reached with
    | refl => exact ⟨sound_initial, ordered_initial⟩
    | tail _ passesNone stepped inductionHypothesis =>
        rcases inductionHypothesis with ⟨sound, ordered⟩
        exact ⟨sound_step sound stepped, ordered_step sound ordered passesNone stepped⟩
  exact both.2

/-! ## No row is lost -/

/-- A committed row stays in the table with its record. -/
theorem kept_step {system system' : RelaySystem} {action : RelayAction}
    (stepped : step system action = some system') {row : OutboxRow}
    (rowMem : row ∈ system.rows) (committed : row.committed = true) :
    ∃ kept ∈ system'.rows, kept.SameRecord row ∧ kept.committed = true := by
  cases step_change stepped with
  | inserted => exact ⟨row, List.mem_append_left _ rowMem, SameRecord.refl row, committed⟩
  | committed writer =>
      refine ⟨commitRow writer row, List.mem_map_of_mem rowMem,
        commitRow_sameRecord writer row, ?_⟩
      rw [commitRow_of_committed writer committed]
      exact committed
  | rolledBack writer =>
      exact ⟨row, List.mem_filter.mpr ⟨rowMem, decide_eq_true (Or.inl committed)⟩,
        SameRecord.refl row, committed⟩
  | stamped index batch found =>
      refine ⟨stampRow batch row, List.mem_map_of_mem rowMem,
        stampRow_sameRecord batch row, ?_⟩
      rw [stampRow_committed]
      exact committed
  | claimed | published | appended | acknowledged | closed =>
      exact ⟨row, rowMem, SameRecord.refl row, committed⟩

theorem kept_of_reachable {guard : Guard RelaySystem RelayAction}
    {system later : RelaySystem} (path : Reachable step guard system later)
    {row : OutboxRow} (rowMem : row ∈ system.rows) (committed : row.committed = true) :
    ∃ kept ∈ later.rows, kept.SameRecord row ∧ kept.committed = true := by
  induction path with
  | refl => exact ⟨row, rowMem, SameRecord.refl row, committed⟩
  | tail _ _ stepped inductionHypothesis =>
      rcases inductionHypothesis with ⟨kept, keptMem, same, isCommitted⟩
      rcases kept_step stepped keptMem isCommitted with ⟨last, lastMem, again, last'⟩
      exact ⟨last, lastMem, again.trans same, last'⟩

/-- The next claim may take the row, or it may once the one cycle that holds it has
ended. -/
def StillClaimable (system : RelaySystem) (row : OutboxRow) : Prop :=
  row ∈ system.claimable ∨
    ∃ index cycle, system.cycles[index]? = some cycle ∧ row ∈ cycle.batch ∧
      row ∈ (system.closed index).claimable

theorem stillClaimable_of_unpublished {system : RelaySystem} (sound : system.Sound)
    {row : OutboxRow} (rowMem : row ∈ system.rows) (committed : row.committed = true)
    (unpublished : row.published = false) : system.StillClaimable row := by
  by_cases held : system.Holds row
  · right
    rcases held with ⟨cycle, cycleMem, inBatch⟩
    rcases List.mem_iff_getElem?.mp cycleMem with ⟨index, found⟩
    refine ⟨index, cycle, found, inBatch, ?_⟩
    apply List.mem_filter.mpr
    refine ⟨rowMem, decide_eq_true ⟨committed, unpublished, ?_⟩⟩
    rintro ⟨other, otherMem, inOther⟩
    exact sound.apart found otherMem inBatch inOther
  · left
    exact List.mem_filter.mpr ⟨rowMem, decide_eq_true ⟨committed, unpublished, held⟩⟩

/-! ## The relay -/

/-- The rows of an order are first published in the order of their sequence. -/
def FirstPublishedInOrder (system : RelaySystem) : Prop :=
  ∀ earlier ∈ system.rows, ∀ later ∈ system.rows,
    earlier.correlationId = later.correlationId → earlier.seq < later.seq →
      earlier.toPublishable ∈ system.topic → later.toPublishable ∈ system.topic →
        system.topic.idxOf earlier.toPublishable <
          system.topic.idxOf later.toPublishable

/-- Whatever the writers, the relays and the broker do: a stamped row was
acknowledged, and a committed row is kept, unchanged, and claimable until it is
stamped.  The rows of every order are first published in the order of their
sequence in every run in which no relay claims a row past an earlier row of its
order that is held. -/
theorem outbox_relay {system : RelaySystem}
    (reached : Reachable step unguarded initial system) :
    (∀ row ∈ system.rows, row.published = true →
      row.toPublishable ∈ system.acknowledged ∧ row.toPublishable ∈ system.topic) ∧
    (∀ row ∈ system.rows, row.committed = true →
      ∀ later, Reachable step unguarded system later →
        ∃ kept ∈ later.rows, kept.SameRecord row ∧ kept.committed = true ∧
          (kept.published = false → later.StillClaimable kept)) ∧
    (Reachable step PassesNoEarlierRow initial system →
      system.FirstPublishedInOrder) := by
  have sound_of : ∀ {source target : RelaySystem}, source.Sound →
      Reachable step unguarded source target → target.Sound := fun sound path =>
    path.invariant sound fun _ _ _ sound _ stepped => sound_step sound stepped
  have sound := sound_of sound_initial reached
  refine ⟨fun row rowMem published => ?_, fun row rowMem committed later path => ?_,
    fun guarded => ?_⟩
  · have told := (sound.stamped row rowMem published).2
    exact ⟨told, sound.acked _ told⟩
  · rcases kept_of_reachable path rowMem committed with ⟨kept, keptMem, same, isCommitted⟩
    exact ⟨kept, keptMem, same, isCommitted,
      stillClaimable_of_unpublished (sound_of sound path) keptMem isCommitted⟩
  · have ordered := ordered_of_reachable guarded
    intro earlier earlierMem later laterMem sameOrder less _ laterLogged
    exact ordered.topic _ _
      ⟨earlier, earlierMem, later, laterMem, rfl, rfl, sameOrder, less⟩ laterLogged

/-! ## Two relays -/

/-- A completed fact of an order. -/
def completedFact (order : Nat) : Fact :=
  .orderCompleted
    { orderReference := ⟨order⟩
      retailerCode := "RET-0001"
      companyCode := "COM-0001"
      currency := "EUR"
      totalAmount := 100 }

/-- A writer appends two facts of one order and commits. -/
def twoFacts : List RelayAction :=
  [ .insert 1 ⟨1⟩ (completedFact 1), .insert 1 ⟨2⟩ (completedFact 1), .commit 1 ]

/-- Two relays with batches of one; the second publishes first. -/
def secondPassesFirst : List RelayAction :=
  twoFacts ++
    [ .claim 1, .claim 1, .publish 1, .append 0, .acknowledge 1, .stamp 1,
      .publish 0, .append 1, .acknowledge 0, .stamp 0 ]

/-- The places of the two facts on the topic. -/
def placesOf (system : RelaySystem) : List (Nat × Bool × Nat) :=
  system.rows.map fun row =>
    (row.seq, row.published, system.topic.idxOf row.toPublishable)

/-- Two relays publish two facts of one order in the opposite order. -/
theorem second_relay_passes_first :
    ¬ (∀ system, Reachable step unguarded initial system →
      system.FirstPublishedInOrder) := by
  intro claimed
  have runs : ((execute step (fun state action => decide (unguarded state action))
      initial secondPassesFirst).map fun system => (system.rows, system.topic)) =
      some
        ([ ⟨1, ⟨1⟩, completedFact 1, 1, true, true⟩,
           ⟨2, ⟨2⟩, completedFact 1, 1, true, true⟩ ],
          [ ⟨⟨1⟩, ⟨2⟩, completedFact 1⟩, ⟨⟨1⟩, ⟨1⟩, completedFact 1⟩ ]) := by
    decide
  rcases Option.map_eq_some_iff.mp runs with ⟨system, ran, outcome⟩
  rcases Prod.mk.inj outcome with ⟨rows, topic⟩
  have inOrder := claimed system (reachable_of_execute ran)
    ⟨1, ⟨1⟩, completedFact 1, 1, true, true⟩ (by rw [rows]; exact List.mem_cons_self)
    ⟨2, ⟨2⟩, completedFact 1, 1, true, true⟩
    (by rw [rows]; exact List.mem_cons_of_mem _ List.mem_cons_self) rfl (by decide)
  rw [topic] at inOrder
  exact absurd (inOrder (by decide) (by decide)) (by decide)

/-- One relay claims both facts while the other takes another order's; the first
publication times out and reaches the broker late. -/
def relaysApart : List RelayAction :=
  twoFacts ++
    [ .insert 2 ⟨3⟩ (completedFact 2), .claim 2, .commit 2, .claim 2, .publish 1,
      .append 0, .acknowledge 1, .publish 0, .giveUp 0, .stamp 0, .claim 5,
      .publish 0, .append 2, .append 1, .acknowledge 0, .stamp 0 ]

theorem relays_apart_in_order :
    ∃ system,
      execute step (fun state action => decide (PassesNoEarlierRow state action))
        initial relaysApart = some system ∧
      system.placesOf = [(1, true, 1), (2, true, 2), (3, true, 0)] ∧
      system.FirstPublishedInOrder := by
  have runs : (execute step
      (fun state action => decide (PassesNoEarlierRow state action))
        initial relaysApart).map placesOf =
      some [(1, true, 1), (2, true, 2), (3, true, 0)] := by
    decide
  rcases Option.map_eq_some_iff.mp runs with ⟨system, ran, places⟩
  have guarded := reachable_of_execute ran
  have reached : Reachable step unguarded initial system :=
    guarded.weaken fun _ _ _ => trivial
  exact ⟨system, ran, places, (outbox_relay reached).2.2 guarded⟩

end RelaySystem

end OrderToCash.Outbox
