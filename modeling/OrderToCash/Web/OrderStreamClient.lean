import OrderToCash.Projector.Signal

/-!
# The order page's stream client

The client passes the frames of the stream on to the page, each identity once for
each of the two kinds of frame, and gives the connection up after a number of
errors in a row.
-/

namespace OrderToCash.Web

open OrderToCash.Projector

inductive StreamConnectionStatus
  | connecting
  | connected
  | reconnecting
  | gaveUp
deriving DecidableEq, Repr

/-- What the connection tells its listeners. -/
inductive StreamEvent
  | ready (resumed : Bool)
  | orderUpdated (update : OrderStreamUpdate)
  | timelineAppended (entry : TimelineStreamEntry)
  | ping
  | error (closed : Bool)
deriving DecidableEq, Repr

/-- What the client tells the page. -/
inductive StreamCallback
  | statusChange (status : StreamConnectionStatus)
  | resync
  | orderUpdated (update : OrderStreamUpdate)
  | timelineAppended (entry : TimelineStreamEntry)
deriving DecidableEq, Repr

structure OrderStreamClient where
  connected : Bool
  consecutiveErrors : Nat
  seenOrderUpdateIds : List String
  seenTimelineEntryIds : List String
  giveUpAfterConsecutiveErrors : Nat
deriving DecidableEq, Repr

namespace OrderStreamClient

def create (giveUpAfterConsecutiveErrors : Nat) : OrderStreamClient :=
  { connected := false
    consecutiveErrors := 0
    seenOrderUpdateIds := []
    seenTimelineEntryIds := []
    giveUpAfterConsecutiveErrors := giveUpAfterConsecutiveErrors }

def seedSeenEventIds (client : OrderStreamClient) (eventIds : List String) :
    OrderStreamClient :=
  { client with
    seenOrderUpdateIds := eventIds ++ client.seenOrderUpdateIds
    seenTimelineEntryIds := eventIds ++ client.seenTimelineEntryIds }

def connect (client : OrderStreamClient) : OrderStreamClient × List StreamCallback :=
  ({ client with connected := true, consecutiveErrors := 0 },
    [.statusChange .connecting])

/-- One event of the connection, with the callbacks it leads to. -/
def receive (client : OrderStreamClient) :
    StreamEvent → OrderStreamClient × List StreamCallback
  | .ready resumed =>
      ({ client with consecutiveErrors := 0 },
        .statusChange .connected :: if resumed then [] else [.resync])
  | .orderUpdated update =>
      if update.eventId ∈ client.seenOrderUpdateIds then
        ({ client with consecutiveErrors := 0 }, [.statusChange .connected])
      else
        ({ client with
            consecutiveErrors := 0
            seenOrderUpdateIds := update.eventId :: client.seenOrderUpdateIds },
          [.statusChange .connected, .orderUpdated update])
  | .timelineAppended entry =>
      if entry.eventId ∈ client.seenTimelineEntryIds then
        ({ client with consecutiveErrors := 0 }, [.statusChange .connected])
      else
        ({ client with
            consecutiveErrors := 0
            seenTimelineEntryIds := entry.eventId :: client.seenTimelineEntryIds },
          [.statusChange .connected, .timelineAppended entry])
  | .ping => ({ client with consecutiveErrors := 0 }, [.statusChange .connected])
  | .error closed =>
      let consecutiveErrors := client.consecutiveErrors + 1
      if closed ∨ client.giveUpAfterConsecutiveErrors ≤ consecutiveErrors then
        ({ client with connected := false, consecutiveErrors := consecutiveErrors },
          [.statusChange .gaveUp])
      else
        ({ client with consecutiveErrors := consecutiveErrors },
          [.statusChange .reconnecting])

/-- The two frames of a signal, in the order they are published. -/
def receiveSignal (client : OrderStreamClient) (signal : UpdateSignal) :
    OrderStreamClient × List StreamCallback :=
  let (updated, first) := client.receive (.orderUpdated signal.orderUpdate)
  let (appended, second) := updated.receive (.timelineAppended signal.timelineEntry)
  (appended, first ++ second)

def receiveSignals (client : OrderStreamClient) :
    List UpdateSignal → OrderStreamClient × List StreamCallback
  | [] => (client, [])
  | signal :: rest =>
      let (next, first) := client.receiveSignal signal
      let (last, later) := next.receiveSignals rest
      (last, first ++ later)

/-- A signal whose frames are both new is passed on in full. -/
theorem receiveSignal_of_new {client : OrderStreamClient} {signal : UpdateSignal}
    (newUpdate : signal.orderUpdate.eventId ∉ client.seenOrderUpdateIds)
    (newEntry : signal.timelineEntry.eventId ∉ client.seenTimelineEntryIds) :
    client.receiveSignal signal =
      ({ client with
          consecutiveErrors := 0
          seenOrderUpdateIds := signal.orderUpdate.eventId :: client.seenOrderUpdateIds
          seenTimelineEntryIds :=
            signal.timelineEntry.eventId :: client.seenTimelineEntryIds },
        [.statusChange .connected, .orderUpdated signal.orderUpdate,
          .statusChange .connected, .timelineAppended signal.timelineEntry]) := by
  simp only [receiveSignal, receive, if_neg newUpdate, if_neg newEntry]
  rfl

/-- Both frames of every signal reach the page. -/
def PassesOn (client : OrderStreamClient) (signals : List UpdateSignal) : Prop :=
  ∀ signal ∈ signals,
    .orderUpdated signal.orderUpdate ∈ (client.receiveSignals signals).2 ∧
      .timelineAppended signal.timelineEntry ∈ (client.receiveSignals signals).2

/-- Signals with new and distinct identities are all passed on, by induction on
the signals. -/
theorem passesOn_of_new (client : OrderStreamClient) (signals : List UpdateSignal)
    (updateIds : (signals.map fun signal => signal.orderUpdate.eventId).Nodup)
    (newUpdates : ∀ signal ∈ signals,
      signal.orderUpdate.eventId ∉ client.seenOrderUpdateIds)
    (entryIds : (signals.map fun signal => signal.timelineEntry.eventId).Nodup)
    (newEntries : ∀ signal ∈ signals,
      signal.timelineEntry.eventId ∉ client.seenTimelineEntryIds) :
    client.PassesOn signals := by
  induction signals generalizing client with
  | nil =>
      intro signal signalMem
      exact absurd signalMem List.not_mem_nil
  | cons first rest inductionHypothesis =>
      rw [List.map_cons, List.nodup_cons] at updateIds entryIds
      rw [List.forall_mem_cons] at newUpdates newEntries
      have passed := receiveSignal_of_new newUpdates.1 newEntries.1
      have later := inductionHypothesis (client.receiveSignal first).1 updateIds.2
        (by
          intro signal signalMem
          rw [passed, List.mem_cons, not_or]
          constructor
          · intro same
            exact updateIds.1 (same ▸ List.mem_map_of_mem signalMem)
          · exact newUpdates.2 signal signalMem)
        entryIds.2
        (by
          intro signal signalMem
          rw [passed, List.mem_cons, not_or]
          constructor
          · intro same
            exact entryIds.1 (same ▸ List.mem_map_of_mem signalMem)
          · exact newEntries.2 signal signalMem)
      intro signal signalMem
      simp only [receiveSignals, List.mem_append]
      rcases List.mem_cons.mp signalMem with rfl | restMem
      · rw [passed]
        constructor
        · exact Or.inl (by simp)
        · exact Or.inl (by simp)
      · have both := later signal restMem
        exact ⟨Or.inr both.1, Or.inr both.2⟩

end OrderStreamClient

end OrderToCash.Web
