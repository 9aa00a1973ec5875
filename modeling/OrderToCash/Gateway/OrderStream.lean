import Mathlib.Logic.Function.Basic
import OrderToCash.Gateway.ReplayBuffer
import OrderToCash.Transition.Run

/-!
# The order stream

The hub behind the order stream and its connections, in one gateway process.
A connection is answered from the replay buffer and then subscribed, in one
turn of the event loop.  Beside the state of the source the system keeps the
history of what was published and minted, which no action reads.
-/

namespace OrderToCash.Gateway

open OrderToCash.Transition

universe u

inductive StreamEventType
  | orderUpdated
  | timelineAppended
deriving DecidableEq, Repr

structure StreamFrame (Data : Type u) where
  cursor : String
  event : StreamEventType
  orderId : String
  data : Data
deriving DecidableEq

/-- One open response: what was asked for, what `stream.ready` answered, and
the content frames written so far, of which the client has received some. -/
structure Connection (Data : Type u) where
  client : Nat
  orderId : Option String
  lastEventId : Option String
  readyCursor : String
  resumed : Bool
  written : List (StreamFrame Data)
  received : Nat

variable {Data : Type u}

/-- A frame passes the connection's filter. -/
def matchesFilter (orderId : Option String) (frame : StreamFrame Data) : Bool :=
  match orderId with
  | none => true
  | some wanted => frame.orderId = wanted

structure StreamHub (Data : Type u) where
  buffer : ReplayBuffer (StreamFrame Data)
  /-- How many cursors the generator has issued. -/
  sequence : Nat

namespace StreamHub

/-- The cursor the generator issues next, at a reading of the clock. -/
def nextCursor (hub : StreamHub Data) (now : Int) : String :=
  renderCursor now (hub.sequence + 1)

def mintCursor (hub : StreamHub Data) : StreamHub Data :=
  { hub with sequence := hub.sequence + 1 }

def publish (hub : StreamHub Data) (frame : StreamFrame Data) :
    StreamHub Data where
  buffer := hub.buffer.push frame.cursor frame
  sequence := hub.sequence + 1

end StreamHub

structure StreamSystem (Data : Type u) where
  hub : StreamHub Data
  /-- The open responses. -/
  connections : Nat → Option (Connection Data)
  /-- The id each client remembers, of the last frame it received. -/
  lastEventIds : Nat → Option String
  /-- History: every frame published, in order. -/
  published : List (StreamFrame Data)
  /-- History: every cursor issued, in order. -/
  issued : List String

inductive StreamAction (Data : Type u)
  | publish (now : Int) (event : StreamEventType) (orderId : String)
      (data : Data)
  /-- A client connects with a filter and the id it remembers, if any. -/
  | connect (connection client : Nat) (orderId : Option String) (now : Int)
  /-- The next frame written to a connection reaches its client. -/
  | receive (connection : Nat)
  | disconnect (connection : Nat)
  | ping (connection : Nat) (now : Int)

namespace StreamSystem

def initial (capacity : Nat) (positive : 1 ≤ capacity) : StreamSystem Data where
  hub := ⟨ReplayBuffer.create capacity positive, 0⟩
  connections := fun _ => none
  lastEventIds := fun _ => none
  published := []
  issued := []

/-- The subscription of a connection writes a frame that passes its filter. -/
def Connection.write (frame : StreamFrame Data) (connection : Connection Data) :
    Connection Data :=
  if matchesFilter connection.orderId frame then
    { connection with written := connection.written ++ [frame] }
  else
    connection

def publish (system : StreamSystem Data) (now : Int) (event : StreamEventType)
    (orderId : String) (data : Data) : StreamSystem Data :=
  let cursor := system.hub.nextCursor now
  let frame : StreamFrame Data := ⟨cursor, event, orderId, data⟩
  { system with
    hub := system.hub.publish frame
    connections := fun opened =>
      (system.connections opened).map (Connection.write frame)
    published := system.published ++ [frame]
    issued := system.issued ++ [cursor] }

def mint (system : StreamSystem Data) (now : Int) : StreamSystem Data :=
  { system with
    hub := system.hub.mintCursor
    issued := system.issued ++ [system.hub.nextCursor now] }

/-- Answer `stream.ready`, replay what the buffer still has, and subscribe.  A
fresh connection mints the cursor it is told. -/
def connect (system : StreamSystem Data) (opened client : Nat)
    (orderId : Option String) (now : Int) : StreamSystem Data :=
  let lastEventId := system.lastEventIds client
  let replay := system.hub.buffer.replayAfter lastEventId
  let connection : Connection Data :=
    { client := client
      orderId := orderId
      lastEventId := lastEventId
      readyCursor := lastEventId.getD (system.hub.nextCursor now)
      resumed := replay.resumed
      written := replay.missed.filter (matchesFilter orderId)
      received := 0 }
  let answered := if lastEventId.isSome then system else system.mint now
  { answered with
    connections := Function.update answered.connections opened
      (some connection) }

def receive (system : StreamSystem Data) (opened : Nat)
    (connection : Connection Data) (frame : StreamFrame Data) :
    StreamSystem Data :=
  { system with
    connections := Function.update system.connections opened
      (some { connection with received := connection.received + 1 })
    lastEventIds := Function.update system.lastEventIds connection.client
      (some frame.cursor) }

def step : Step (StreamSystem Data) (StreamAction Data) := fun system action =>
  match action with
  | .publish now event orderId data =>
      some (system.publish now event orderId data)
  | .connect opened client orderId now =>
      match system.connections opened with
      | some _ => none
      | none => some (system.connect opened client orderId now)
  | .receive opened =>
      match system.connections opened with
      | none => none
      | some connection =>
          match connection.written[connection.received]? with
          | none => none
          | some frame => some (system.receive opened connection frame)
  | .disconnect opened =>
      match system.connections opened with
      | none => none
      | some _ =>
          some
            { system with
              connections := Function.update system.connections opened none }
  | .ping opened now =>
      match system.connections opened with
      | none => none
      | some _ => some (system.mint now)

/-! ## What resuming promises -/

/-- The frames of the history under their cursors. -/
def keyed (published : List (StreamFrame Data)) :
    List (String × StreamFrame Data) :=
  published.map fun frame => (frame.cursor, frame)

/-- What a connection has been written: the frames since some moment that pass
its filter, in order, each once.  If it was told it resumed, that moment is
right after the frame whose id it came with. -/
structure Honest (published : List (StreamFrame Data))
    (connection : Connection Data) : Prop where
  written : ∃ earlier rest, published = earlier ++ rest ∧
    connection.written = rest.filter (matchesFilter connection.orderId) ∧
    (connection.resumed = true → ∃ frame, earlier.getLast? = some frame ∧
      connection.lastEventId = some frame.cursor)
  received : connection.received ≤ connection.written.length

/-- The cursor a fresh connection is told is one that was issued. -/
def ToldIssued (issued : List String) (connection : Connection Data) : Prop :=
  connection.lastEventId = none → connection.readyCursor ∈ issued

/-- What holds of the hub and every connection. -/
structure Faithful (system : StreamSystem Data) : Prop where
  buffer : system.hub.buffer.Holds (keyed system.published)
  bounded : ∀ cursor ∈ system.issued, ∃ now sequence,
    sequence ≤ system.hub.sequence ∧ cursor = renderCursor now sequence
  distinct : system.issued.Nodup
  published : (system.published.map StreamFrame.cursor).Sublist system.issued
  connections : ∀ opened connection,
    system.connections opened = some connection →
      Honest system.published connection
  told : ∀ opened connection, system.connections opened = some connection →
    ToldIssued system.issued connection

theorem faithful_initial (capacity : Nat) (positive : 1 ≤ capacity) :
    (initial capacity positive : StreamSystem Data).Faithful where
  buffer := List.nil_suffix
  bounded := by
    intro cursor absent
    cases absent
  distinct := List.nodup_nil
  published := .slnil
  connections := by
    intro opened connection absent
    cases absent
  told := by
    intro opened connection absent
    cases absent

/-- A cursor minted next is new. -/
theorem Faithful.fresh {system : StreamSystem Data} (faithful : system.Faithful)
    (now : Int) : system.hub.nextCursor now ∉ system.issued := by
  intro member
  rcases faithful.bounded _ member with ⟨earlier, sequence, bound, same⟩
  have equal := sequence_eq_of_renderCursor same
  omega

theorem Faithful.issue {system : StreamSystem Data} (faithful : system.Faithful)
    (now : Int) :
    (system.issued ++ [system.hub.nextCursor now]).Nodup ∧
      ∀ cursor ∈ system.issued ++ [system.hub.nextCursor now],
        ∃ moment sequence, sequence ≤ system.hub.sequence + 1 ∧
          cursor = renderCursor moment sequence := by
  constructor
  · apply List.Nodup.append faithful.distinct (List.nodup_singleton _)
    intro cursor issued minted
    rw [List.mem_singleton.mp minted] at issued
    exact faithful.fresh now issued
  · intro cursor member
    rcases List.mem_append.mp member with issued | minted
    · rcases faithful.bounded cursor issued with ⟨moment, sequence, bound, same⟩
      exact ⟨moment, sequence, Nat.le_succ_of_le bound, same⟩
    · exact ⟨now, system.hub.sequence + 1, Nat.le_refl _, List.mem_singleton.mp minted⟩

theorem Faithful.mint {system : StreamSystem Data} (faithful : system.Faithful)
    (now : Int) : (system.mint now).Faithful where
  buffer := faithful.buffer
  bounded := (faithful.issue now).2
  distinct := (faithful.issue now).1
  published := faithful.published.trans (List.sublist_append_left _ _)
  connections := faithful.connections
  told := by
    intro opened connection isOpen isFresh
    exact List.mem_append_left _ (faithful.told opened connection isOpen isFresh)

/-- A frame published next is written to a connection exactly if it passes the
filter. -/
theorem Honest.publish {published : List (StreamFrame Data)}
    {connection : Connection Data} (honest : Honest published connection)
    (frame : StreamFrame Data) :
    Honest (published ++ [frame]) (Connection.write frame connection) := by
  rcases honest with ⟨⟨earlier, rest, split, written, resumed⟩, received⟩
  have after : published ++ [frame] = earlier ++ (rest ++ [frame]) := by
    rw [split, List.append_assoc]
  unfold Connection.write
  split
  · rename_i passes
    constructor
    · refine ⟨earlier, rest ++ [frame], after, ?_, resumed⟩
      simp only [List.filter_append, List.filter_cons, List.filter_nil, passes,
        if_true, written]
    · exact Nat.le_trans received (by simp)
  · rename_i blocked
    constructor
    · refine ⟨earlier, rest ++ [frame], after, ?_, resumed⟩
      simp [List.filter_append, blocked, written]
    · exact received

theorem ToldIssued.publish {issued : List String} {connection : Connection Data}
    (told : ToldIssued issued connection) (cursor : String) (frame : StreamFrame Data) :
    ToldIssued (issued ++ [cursor]) (Connection.write frame connection) := by
  unfold Connection.write
  split <;> exact fun isFresh => List.mem_append_left _ (told isFresh)

theorem Faithful.publish {system : StreamSystem Data}
    (faithful : system.Faithful) (now : Int) (event : StreamEventType)
    (orderId : String) (data : Data) :
    (system.publish now event orderId data).Faithful := by
  constructor
  · have pushed := faithful.buffer.push (system.hub.nextCursor now)
      ⟨system.hub.nextCursor now, event, orderId, data⟩
    simpa only [keyed, StreamSystem.publish, StreamHub.publish,
      List.map_append, List.map_cons, List.map_nil] using pushed
  · exact (faithful.issue now).2
  · exact (faithful.issue now).1
  · simp only [StreamSystem.publish, List.map_append, List.map_cons,
      List.map_nil]
    exact faithful.published.append (List.Sublist.refl _)
  · intro opened connection isOpen
    simp only [StreamSystem.publish, Option.map_eq_some_iff] at isOpen
    rcases isOpen with ⟨before, wasOpen, rfl⟩
    exact (faithful.connections opened before wasOpen).publish _
  · intro opened connection isOpen
    simp only [StreamSystem.publish, Option.map_eq_some_iff] at isOpen
    rcases isOpen with ⟨before, wasOpen, rfl⟩
    exact (faithful.told opened before wasOpen).publish _ _

/-- Changing one response and what its client remembers. -/
theorem Faithful.update {system : StreamSystem Data} (faithful : system.Faithful)
    (opened : Nat) {answer : Option (Connection Data)}
    (told : ∀ connection, answer = some connection → ToldIssued system.issued connection)
    (honest : ∀ connection, answer = some connection →
      Honest system.published connection)
    (lastEventIds : Nat → Option String) :
    ({ system with
      connections := Function.update system.connections opened answer
      lastEventIds := lastEventIds } : StreamSystem Data).Faithful where
  buffer := faithful.buffer
  bounded := faithful.bounded
  distinct := faithful.distinct
  published := faithful.published
  connections := by
    intro other connection isOpen
    by_cases same : other = opened
    · rw [same] at isOpen
      simp only [Function.update_self] at isOpen
      exact honest connection isOpen
    · simp only [Function.update_of_ne same] at isOpen
      exact faithful.connections other connection isOpen
  told := by
    intro other connection isOpen
    by_cases same : other = opened
    · rw [same] at isOpen
      simp only [Function.update_self] at isOpen
      exact told connection isOpen
    · simp only [Function.update_of_ne same] at isOpen
      exact faithful.told other connection isOpen

/-- What the buffer replays after an id is the history after that id. -/
theorem Faithful.replay {system : StreamSystem Data} (faithful : system.Faithful)
    {lastEventId : Option String}
    (resumed : (system.hub.buffer.replayAfter lastEventId).resumed = true) :
    ∃ earlier frame rest, system.published = earlier ++ frame :: rest ∧
      lastEventId = some frame.cursor ∧
      (system.hub.buffer.replayAfter lastEventId).missed = rest ∧
      ∀ later ∈ rest, (later.cursor, later) ∈ system.hub.buffer.entries := by
  cases lastEventId with
  | none => cases resumed
  | some cursor =>
      rcases ReplayBuffer.replayAfter_resumed faithful.buffer resumed with
        ⟨before, value, after, split, missed, stored⟩
      unfold keyed at split
      rcases List.map_eq_append_iff.mp split with
        ⟨earlier, others, published, rfl, tail⟩
      rcases List.map_eq_cons_iff.mp tail with
        ⟨frame, rest, rfl, head, rfl⟩
      rcases Prod.mk.inj head with ⟨sameCursor, sameFrame⟩
      refine ⟨earlier, frame, rest, published, by rw [sameCursor], ?_, ?_⟩
      · rw [missed, List.map_map]
        exact List.map_id rest
      · intro later member
        exact stored _ (List.mem_map.mpr ⟨later, member, rfl⟩)

theorem Faithful.connect {system : StreamSystem Data}
    (faithful : system.Faithful) (opened client : Nat)
    (orderId : Option String) (now : Int) :
    (system.connect opened client orderId now).Faithful := by
  have answered : (if (system.lastEventIds client).isSome then system
      else system.mint now).Faithful := by
    split
    · exact faithful
    · exact faithful.mint now
  have published : (if (system.lastEventIds client).isSome then system
      else system.mint now).published = system.published := by
    split <;> rfl
  apply answered.update opened
  · rintro connection ⟨⟩ isFresh
    simp only at isFresh
    simp [isFresh, StreamSystem.mint]
  rintro connection ⟨⟩
  rw [published]
  constructor
  · cases resumed : (system.hub.buffer.replayAfter
        (system.lastEventIds client)).resumed with
    | true =>
        rcases faithful.replay resumed with
          ⟨earlier, frame, rest, split, remembered, missed, _⟩
        refine ⟨earlier ++ [frame], rest, ?_, ?_, ?_⟩
        · rw [split, List.append_assoc, List.singleton_append]
        · rw [missed]
        · intro _
          exact ⟨frame, List.getLast?_concat, remembered⟩
    | false =>
        have nothing : (system.hub.buffer.replayAfter
            (system.lastEventIds client)).missed = [] := by
          revert resumed
          unfold ReplayBuffer.replayAfter
          split
          · intro _
            rfl
          · split
            · intro _
              rfl
            · intro resumed
              cases resumed
        refine ⟨system.published, [], (List.append_nil _).symm, ?_, ?_⟩
        · rw [nothing]
        · intro absurdly
          cases absurdly
  · exact Nat.zero_le _

theorem Faithful.step {system system' : StreamSystem Data}
    {action : StreamAction Data} (faithful : system.Faithful)
    (taken : step system action = some system') : system'.Faithful := by
  cases action with
  | publish now event orderId data =>
      cases taken
      exact faithful.publish now event orderId data
  | connect opened client orderId now =>
      simp only [StreamSystem.step] at taken
      split at taken
      · cases taken
      · cases taken
        exact faithful.connect opened client orderId now
  | receive opened =>
      simp only [StreamSystem.step] at taken
      split at taken
      · cases taken
      · rename_i connection isOpen
        split at taken
        · cases taken
        · rename_i frame next
          cases taken
          apply faithful.update opened
          · rintro changed ⟨⟩
            exact faithful.told opened connection isOpen
          · rintro changed ⟨⟩
            have honest := faithful.connections opened connection isOpen
            constructor
            · exact honest.written
            · exact (List.getElem?_eq_some_iff.mp next).choose
  | disconnect opened =>
      simp only [StreamSystem.step] at taken
      split at taken
      · cases taken
      · cases taken
        apply faithful.update opened
        · intro connection closed
          cases closed
        · intro connection closed
          cases closed
  | ping opened now =>
      simp only [StreamSystem.step] at taken
      split at taken
      · cases taken
      · cases taken
        exact faithful.mint now

/-- Some frame published after the one a client remembers passes the filter
and has left the buffer. -/
def MatchingEvicted (system : StreamSystem Data) (client : Nat)
    (orderId : Option String) : Prop :=
  ∃ earlier frame rest later, system.published = earlier ++ frame :: rest ∧
    system.lastEventIds client = some frame.cursor ∧
    later ∈ rest ∧ matchesFilter orderId later = true ∧
    (later.cursor, later) ∉ system.hub.buffer.entries

/-- Nothing after a frame bears its cursor. -/
theorem cursor_ne_of_later {earlier rest : List (StreamFrame Data)}
    {frame later : StreamFrame Data}
    (distinct : ((earlier ++ frame :: rest).map StreamFrame.cursor).Nodup)
    (member : later ∈ rest) : later.cursor ≠ frame.cursor := by
  rw [List.map_append, List.map_cons] at distinct
  have tail := (List.nodup_append.mp distinct).2.1
  have notLater := (List.nodup_cons.mp tail).1
  intro same
  apply notLater
  rw [← same]
  exact List.mem_map_of_mem member

/-- The place of a cursor in the history is determined. -/
theorem rest_unique {earlier others rest remaining : List (StreamFrame Data)}
    {frame other : StreamFrame Data}
    (distinct : ((earlier ++ frame :: rest).map StreamFrame.cursor).Nodup)
    (split : earlier ++ frame :: rest = others ++ other :: remaining)
    (same : frame.cursor = other.cursor) : rest = remaining := by
  have distinctOther := distinct
  rw [split] at distinctOther
  rcases List.append_eq_append_iff.mp split with
    ⟨middle, _, tail⟩ | ⟨middle, _, tail⟩
  · cases middle with
    | nil => exact (List.cons.inj tail).2
    | cons head middle =>
        rcases List.cons.inj tail with ⟨_, inRest⟩
        have member : other ∈ rest := by
          rw [inRest]
          simp
        exact absurd same.symm (cursor_ne_of_later distinct member)
  · cases middle with
    | nil => exact (List.cons.inj tail).2.symm
    | cons head middle =>
        rcases List.cons.inj tail with ⟨_, inRemaining⟩
        have member : frame ∈ remaining := by
          rw [inRemaining]
          simp
        exact absurd same (cursor_ne_of_later distinctOther member)

/-- A client that would miss a frame is told so. -/
theorem Faithful.notResumed {system : StreamSystem Data}
    (faithful : system.Faithful) {client : Nat} {orderId : Option String}
    (evicted : system.MatchingEvicted client orderId) :
    (system.hub.buffer.replayAfter
      (system.lastEventIds client)).resumed = false := by
  rcases evicted with
    ⟨earlier, frame, rest, later, split, remembered, member, _, gone⟩
  by_contra resumed
  rw [Bool.not_eq_false] at resumed
  rcases faithful.replay resumed with
    ⟨others, other, remaining, otherSplit, otherRemembered, _, stored⟩
  have same : frame.cursor = other.cursor := by
    rw [remembered] at otherRemembered
    exact Option.some.inj otherRemembered
  have distinct : (system.published.map StreamFrame.cursor).Nodup :=
    faithful.distinct.sublist faithful.published
  rw [split] at distinct otherSplit
  have sameRest := rest_unique distinct otherSplit same
  rw [sameRest] at member
  exact gone (stored later member)

/-- Resuming the order stream is honest: no cursor is issued twice, those of the
frames and of fresh connections among them, a connection is written exactly the
frames since its id that pass its filter, and a client that has lost one of them
is answered that it did not resume. -/
theorem resume_honest {capacity : Nat} {positive : 1 ≤ capacity}
    {system : StreamSystem Data}
    (path : Reachable step unguarded (initial capacity positive) system) :
    system.issued.Nodup ∧
      (system.published.map StreamFrame.cursor).Sublist system.issued ∧
      (∀ opened connection, system.connections opened = some connection →
        Honest system.published connection ∧
          (connection.lastEventId = none → connection.readyCursor ∈ system.issued)) ∧
      ∀ opened client orderId now system' connection,
        step system (.connect opened client orderId now) = some system' →
        system'.connections opened = some connection →
        system.MatchingEvicted client orderId →
        connection.resumed = false := by
  have faithful : system.Faithful := by
    apply Reachable.invariant (faithful_initial capacity positive) _ path
    intro before action after invariant _ taken
    exact invariant.step taken
  refine ⟨faithful.distinct, faithful.published, ?_, ?_⟩
  · intro opened connection isOpen
    exact ⟨faithful.connections opened connection isOpen,
      faithful.told opened connection isOpen⟩
  intro opened client orderId now system' connection taken isOpen evicted
  simp only [step] at taken
  split at taken
  · cases taken
  · cases taken
    simp only [connect, Function.update_self, Option.some.injEq] at isOpen
    rw [← isOpen]
    exact faithful.notResumed evicted

/-- A client receives the first of three frames, loses its connection, and
comes back within the capacity, with the clock set back. -/
theorem resume_honest_after_reconnect :
    ∃ system : StreamSystem Unit,
      Reachable step unguarded (initial 2 (by decide)) system ∧
        (system.connections 1).map (fun connection =>
          (connection.resumed, connection.written.map StreamFrame.event)) =
          some (true, [.timelineAppended, .orderUpdated]) ∧
        system.issued.Nodup ∧
        (system.published.map StreamFrame.cursor).Sublist system.issued := by
  have executed : (execute step
      (fun state action => decide (unguarded state action))
      (initial 2 (by decide) : StreamSystem Unit)
      [.connect 0 0 (some "order-1") 5, .publish 5 .orderUpdated "order-1" (),
        .receive 0, .disconnect 0, .publish 5 .timelineAppended "order-1" (),
        .connect 1 0 (some "order-1") 4, .ping 1 4,
        .publish 4 .orderUpdated "order-1" ()]).map
        (fun system => (system.connections 1).map fun connection =>
          (connection.resumed, connection.written.map StreamFrame.event)) =
      some (some (true, [.timelineAppended, .orderUpdated])) := by
    decide +kernel
  rcases Option.map_eq_some_iff.mp executed with ⟨system, reached, answered⟩
  have path := reachable_of_execute reached
  have honest := resume_honest path
  exact ⟨system, path, answered, honest.1, honest.2.1⟩

end StreamSystem

end OrderToCash.Gateway
