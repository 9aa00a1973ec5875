import OrderToCash.Transition.Run
import OrderToCash.Web.OrderDetail
import OrderToCash.Web.OrderStreamClient

/-!
# The order page

The page caches the answers of `GET /orders/{id}`, changes the cached detail with
the frames of its stream, and repeats the request by a timer.  The query library
asks `refetchInterval` anew after every change of the query's state, and the
answer replaces the timer that runs.

The system is one page of one order, with the order's document at the server and
the frames published since the page was opened.  Time is counted in milliseconds.
-/

namespace OrderToCash.Web

open OrderToCash.Contracts
open OrderToCash.Kernel
open OrderToCash.Orders
open OrderToCash.Projector
open OrderToCash.Transition

/-- The statuses from which the document can no longer change. -/
def isTerminalOrderStatus : OrderStatus → Bool
  | .completed => true
  | .cancelled => true
  | _ => false

def staleStatusBackstopMs : Nat := 5000

/-- What the page asks to wait where the gateway suggests nothing. -/
def defaultRetryAfterMs : Nat := 2000

def projectionPendingRetryAfterMs : Nat := 2000

inductive OrderDetailResult
  | pending (retryAfterMs : Option Nat)
  | ready (detail : OrderDetail)
deriving DecidableEq, Repr

/-- The answer of `GET /orders/{id}` for an order that was issued. -/
def getOrder : Option OrderTimelineDocument → OrderDetailResult
  | none => .pending (some projectionPendingRetryAfterMs)
  | some document => .ready (toOrderDetail document)

/-- An interval timer: the instant of its next run and its period. -/
structure RefetchTimer where
  deadline : Nat
  period : Nat
deriving DecidableEq, Repr

/-- A request under way, with the answer once the server has read it. -/
structure OrderRequest where
  issuedAt : Nat
  answer : Option OrderDetailResult
deriving DecidableEq, Repr

/-- A content frame of the stream. -/
inductive PageFrame
  | orderUpdated (update : OrderStreamUpdate)
  | timelineAppended (entry : TimelineStreamEntry)
deriving DecidableEq, Repr

def PageFrame.event : PageFrame → StreamEvent
  | .orderUpdated update => .orderUpdated update
  | .timelineAppended entry => .timelineAppended entry

structure OrderPage where
  now : Nat
  document : Option OrderTimelineDocument
  /-- Published since the page was opened, neither delivered nor lost. -/
  frames : List PageFrame
  data : Option OrderDetailResult
  observedNonTerminal : Bool
  extraPollDone : Bool
  timer : Option RefetchTimer
  request : Option OrderRequest
  stream : Option OrderStreamClient
  /-- History: the instants at which a request was issued. -/
  issued : List Nat
  /-- History: a ready document was cached, not terminal, before a terminal one. -/
  watched : Bool
  /-- History: the instant at which a terminal document was first cached. -/
  firstTerminal : Option Nat
deriving DecidableEq, Repr

inductive PageAction
  | elapse (milliseconds : Nat)
  /-- The projector inserts the placeholder of the order. -/
  | seed (envelope : FactEnvelope)
  /-- The projector applies a fact and publishes its signal. -/
  | project (envelope : FactEnvelope)
  /-- The server reads the document for the request under way. -/
  | read
  | respond
  | runTimer
  /-- The next frame reaches the page. -/
  | deliver
  /-- The next frame is lost. -/
  | lose
  /-- `stream.ready`, a ping or an error of the connection. -/
  | ready (resumed : Bool)
  | ping
  | error (closed : Bool)
  | retryConnection
deriving DecidableEq, Repr

namespace OrderPage

def opened (document : Option OrderTimelineDocument) : OrderPage :=
  { now := 0
    document := document
    frames := []
    data := none
    observedNonTerminal := false
    extraPollDone := false
    timer := none
    request := some ⟨0, none⟩
    stream := none
    issued := [0]
    watched := false
    firstTerminal := none }

/-- `refetchInterval`, with the two variables it keeps; `none` for `false`. -/
def refetchInterval (page : OrderPage) : OrderPage × Option Nat :=
  match page.data with
  | none => (page, none)
  | some (.pending retryAfterMs) => (page, some (retryAfterMs.getD defaultRetryAfterMs))
  | some (.ready detail) =>
      if isTerminalOrderStatus detail.status then
        if page.observedNonTerminal ∧ ¬page.extraPollDone then
          ({ page with extraPollDone := true }, some staleStatusBackstopMs)
        else (page, none)
      else ({ page with observedNonTerminal := true }, some staleStatusBackstopMs)

/-- The timer after a change of the query's state. -/
def updateRefetchInterval (page : OrderPage) : OrderPage :=
  { page.refetchInterval.1 with
    timer := page.refetchInterval.2.map fun period => ⟨page.now + period, period⟩ }

/-- A request starts; one under way is given up. -/
def fetch (page : OrderPage) : OrderPage :=
  updateRefetchInterval
    { page with
      request := some ⟨page.now, none⟩
      issued := page.now :: page.issued }

def eventIdsOfData : Option OrderDetailResult → List String
  | some (.ready detail) => detail.events.map TimelineEntry.eventId
  | _ => []

/-- After this many errors in a row the client gives the connection up. -/
def giveUpAfterConsecutiveErrors : Nat := 6

/-- `connect` of the page's stream, with what the cached detail shows. -/
def connect (page : OrderPage) : OrderPage :=
  { page with
    stream :=
      some (((OrderStreamClient.create giveUpAfterConsecutiveErrors).seedSeenEventIds
        (eventIdsOfData page.data)).connect).1 }

/-- The page connects once a ready document is cached. -/
def startStream (page : OrderPage) : OrderPage :=
  match page.data, page.stream with
  | some (.ready _), none => page.connect
  | _, _ => page

/-- The history of what was cached. -/
def record (page : OrderPage) (result : OrderDetailResult) : OrderPage :=
  match result, page.firstTerminal with
  | .ready detail, none =>
      if isTerminalOrderStatus detail.status then
        { page with firstTerminal := some page.now }
      else { page with watched := true }
  | _, _ => page

/-- New data in the query's cache. -/
def setData (page : OrderPage) (result : OrderDetailResult) : OrderPage :=
  (updateRefetchInterval { page.record result with data := some result }).startStream

/-- `setQueryData`; an updater that returns what is cached still counts as a
change, and one that returns nothing does not. -/
def setQueryData (page : OrderPage) (update : OrderDetail → OrderDetail) : OrderPage :=
  match page.data with
  | none => page
  | some (.pending retryAfterMs) => page.setData (.pending retryAfterMs)
  | some (.ready detail) => page.setData (.ready (update detail))

/-- The handlers the page gives its stream client. -/
def handle (page : OrderPage) : StreamCallback → OrderPage
  | .statusChange _ => page
  | .resync => page.fetch
  | .orderUpdated update => page.setQueryData (applyOrderStreamUpdate update)
  | .timelineAppended entry => page.setQueryData (applyTimelineAppended entry)

/-- An event of the connection, while it is open. -/
def receive (page : OrderPage) (event : StreamEvent) : Option OrderPage :=
  match page.stream with
  | some client =>
      if client.connected then
        some
          ((client.receive event).2.foldl handle
            { page with stream := some (client.receive event).1 })
      else none
  | none => none

/-- A fact that is new to the document is applied and announced. -/
def project (evaluate : Evaluation) (page : OrderPage) (envelope : FactEnvelope) :
    Option OrderPage :=
  match page.document with
  | none => none
  | some document =>
      match deliverFact evaluate document envelope with
      | (_, none) => none
      | (updated, some signal) =>
          some
            { page with
              document := some updated
              frames :=
                page.frames ++
                  [.orderUpdated signal.orderUpdate,
                    .timelineAppended signal.timelineEntry] }

/-- The timer runs: it issues a request where none is under way, and runs again
after its period. -/
def runTimer (page : OrderPage) : Option OrderPage :=
  match page.timer with
  | none => none
  | some timer =>
      if timer.deadline ≤ page.now then
        match page.request with
        | some _ =>
            some
              { page with timer := some ⟨timer.deadline + timer.period, timer.period⟩ }
        | none => some page.fetch
      else none

def step (evaluate : Evaluation) : Step OrderPage PageAction := fun page action =>
  match action with
  | .elapse milliseconds => some { page with now := page.now + milliseconds }
  | .seed envelope =>
      match page.document with
      | none =>
          some
            { page with
              document :=
                some (placeholderSkeleton envelope.correlationId envelope.occurredAt) }
      | some _ => none
  | .project envelope => page.project evaluate envelope
  | .read =>
      match page.request with
      | some ⟨issuedAt, none⟩ =>
          some { page with request := some ⟨issuedAt, some (getOrder page.document)⟩ }
      | _ => none
  | .respond =>
      match page.request with
      | some ⟨_, some result⟩ => some ({ page with request := none }.setData result)
      | _ => none
  | .runTimer => page.runTimer
  | .deliver =>
      match page.frames with
      | frame :: rest => { page with frames := rest }.receive frame.event
      | [] => none
  | .lose =>
      match page.frames with
      | _ :: rest => some { page with frames := rest }
      | [] => none
  | .ready resumed => page.receive (.ready resumed)
  | .ping => page.receive .ping
  | .error closed => page.receive (.error closed)
  | .retryConnection =>
      -- The button shows once the connection was given up.
      match page.stream with
      | some client => if client.connected then none else some page.connect
      | none => none

end OrderPage

end OrderToCash.Web
