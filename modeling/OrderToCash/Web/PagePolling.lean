import OrderToCash.Projector.Signal
import OrderToCash.Web.OrderPage

/-!
# How the order page polls

What one step does to the query of an order page, and what every run keeps: the
page holds nothing that does not come from the server, and its timer fits what it
caches.
-/

namespace OrderToCash.Web

open OrderToCash.Contracts
open OrderToCash.Kernel
open OrderToCash.Orders
open OrderToCash.Projector
open OrderToCash.Transition

namespace OrderPage

/-! ## What a step does -/

/-- What a step does, by its effect on the query. -/
inductive Moves (evaluate : Evaluation) (page : OrderPage) :
    PageAction → OrderPage → Prop
  | elapse (milliseconds : Nat) :
      Moves evaluate page (.elapse milliseconds)
        { page with now := page.now + milliseconds }
  | seed (envelope : FactEnvelope) (absent : page.document = none) :
      Moves evaluate page (.seed envelope)
        { page with
          document :=
            some (placeholderSkeleton envelope.correlationId envelope.occurredAt) }
  | project (envelope : FactEnvelope) (document updated : OrderTimelineDocument)
      (signal : UpdateSignal) (stored : page.document = some document)
      (delivered : deliverFact evaluate document envelope = (updated, some signal)) :
      Moves evaluate page (.project envelope)
        { page with
          document := some updated
          frames :=
            page.frames ++
              [.orderUpdated signal.orderUpdate,
                .timelineAppended signal.timelineEntry] }
  | read (issuedAt : Nat) (unread : page.request = some ⟨issuedAt, none⟩) :
      Moves evaluate page .read
        { page with request := some ⟨issuedAt, some (getOrder page.document)⟩ }
  | respond (issuedAt : Nat) (result : OrderDetailResult)
      (answered : page.request = some ⟨issuedAt, some result⟩) :
      Moves evaluate page .respond ({ page with request := none }.setData result)
  | rearm (timer : RefetchTimer) (request : OrderRequest)
      (running : page.timer = some timer) (due : timer.deadline ≤ page.now)
      (underWay : page.request = some request) :
      Moves evaluate page .runTimer
        { page with timer := some ⟨timer.deadline + timer.period, timer.period⟩ }
  | poll (timer : RefetchTimer) (running : page.timer = some timer)
      (due : timer.deadline ≤ page.now) (idle : page.request = none) :
      Moves evaluate page .runTimer page.fetch
  /-- The query's state does not change. -/
  | quiet (action : PageAction) (frames : List PageFrame)
      (stream : Option OrderStreamClient)
      (kept : ∀ frame ∈ frames, frame ∈ page.frames) :
      Moves evaluate page action { page with frames := frames, stream := stream }
  | resync (stream : Option OrderStreamClient) :
      Moves evaluate page (.ready false) { page with stream := stream }.fetch
  | update (update : OrderStreamUpdate) (rest : List PageFrame)
      (client : OrderStreamClient) (stream : Option OrderStreamClient)
      (next : page.frames = .orderUpdated update :: rest)
      (connected : page.stream = some client)
      (new : update.eventId ∉ client.seenOrderUpdateIds) :
      Moves evaluate page .deliver
        ({ page with frames := rest, stream := stream }.setQueryData
          (applyOrderStreamUpdate update))
  | append (entry : TimelineStreamEntry) (rest : List PageFrame)
      (client : OrderStreamClient) (stream : Option OrderStreamClient)
      (next : page.frames = .timelineAppended entry :: rest)
      (connected : page.stream = some client)
      (new : entry.eventId ∉ client.seenTimelineEntryIds) :
      Moves evaluate page .deliver
        ({ page with frames := rest, stream := stream }.setQueryData
          (applyTimelineAppended entry))

variable {evaluate : Evaluation} {page next : OrderPage} {action : PageAction}

/-- A page receives from a client it has. -/
theorem receive_eq_some {event : StreamEvent} (received : page.receive event = some next) :
    ∃ client, page.stream = some client ∧
      next =
        (client.receive event).2.foldl handle
          { page with stream := some (client.receive event).1 } := by
  unfold receive at received
  split at received
  · rename_i client connected
    split at received
    · cases received
      exact ⟨client, connected, rfl⟩
    · contradiction
  · contradiction

theorem moves_of_deliver {frame : PageFrame} {rest : List PageFrame}
    (frames : page.frames = frame :: rest)
    (received : { page with frames := rest }.receive frame.event = some next) :
    Moves evaluate page .deliver next := by
  rcases receive_eq_some received with ⟨client, connected, rfl⟩
  have kept : ∀ frame ∈ rest, frame ∈ page.frames := by
    intro frame frameMem
    rw [frames]
    exact List.mem_cons_of_mem _ frameMem
  cases frame with
  | orderUpdated update =>
      by_cases seen : update.eventId ∈ client.seenOrderUpdateIds
      · simp only [PageFrame.event, OrderStreamClient.receive, if_pos seen]
        exact .quiet _ rest _ kept
      · simp only [PageFrame.event, OrderStreamClient.receive, if_neg seen]
        exact .update update rest client _ frames connected seen
  | timelineAppended entry =>
      by_cases seen : entry.eventId ∈ client.seenTimelineEntryIds
      · simp only [PageFrame.event, OrderStreamClient.receive, if_pos seen]
        exact .quiet _ rest _ kept
      · simp only [PageFrame.event, OrderStreamClient.receive, if_neg seen]
        exact .append entry rest client _ frames connected seen

theorem moves_of_step (stepped : step evaluate page action = some next) :
    Moves evaluate page action next := by
  cases action with
  | elapse milliseconds =>
      cases stepped
      exact .elapse milliseconds
  | seed envelope =>
      simp only [step] at stepped
      split at stepped
      · rename_i absent
        cases stepped
        exact .seed envelope absent
      · contradiction
  | project envelope =>
      simp only [step, project] at stepped
      split at stepped
      · contradiction
      · rename_i document stored
        split at stepped
        · contradiction
        · rename_i updated signal delivered
          cases stepped
          exact .project envelope document updated signal stored delivered
  | read =>
      simp only [step] at stepped
      split at stepped
      · rename_i issuedAt unread
        cases stepped
        exact .read issuedAt unread
      · contradiction
  | respond =>
      simp only [step] at stepped
      split at stepped
      · rename_i issuedAt result answered
        cases stepped
        exact .respond issuedAt result answered
      · contradiction
  | runTimer =>
      simp only [step, runTimer] at stepped
      split at stepped
      · contradiction
      · rename_i timer running
        split at stepped
        · rename_i due
          split at stepped
          · rename_i request underWay
            cases stepped
            exact .rearm timer request running due underWay
          · rename_i idle
            cases stepped
            exact .poll timer running due idle
        · contradiction
  | deliver =>
      simp only [step] at stepped
      split at stepped
      · rename_i frame rest frames
        exact moves_of_deliver frames stepped
      · contradiction
  | lose =>
      simp only [step] at stepped
      split at stepped
      · rename_i frame rest frames
        cases stepped
        apply Moves.quiet _ rest page.stream
        intro kept keptMem
        rw [frames]
        exact List.mem_cons_of_mem _ keptMem
      · contradiction
  | ready resumed =>
      rcases receive_eq_some stepped with ⟨client, connected, rfl⟩
      cases resumed with
      | true => exact .quiet _ page.frames _ fun _ => id
      | false => exact .resync _
  | ping =>
      rcases receive_eq_some stepped with ⟨client, connected, rfl⟩
      exact .quiet _ page.frames _ fun _ => id
  | error closed =>
      rcases receive_eq_some stepped with ⟨client, connected, rfl⟩
      simp only [OrderStreamClient.receive]
      split
      · exact .quiet _ page.frames _ fun _ => id
      · exact .quiet _ page.frames _ fun _ => id
  | retryConnection =>
      simp only [step] at stepped
      split at stepped
      · split at stepped
        · contradiction
        · cases stepped
          exact .quiet _ page.frames _ fun _ => id
      · contradiction

/-! ## What the query's changes leave -/

section Changes

/-- Asking for the interval changes what it decides on and nothing else. -/
theorem updateRefetchInterval_eq (page : OrderPage) :
    ∃ observedNonTerminal extraPollDone timer,
      page.updateRefetchInterval =
        { page with
          observedNonTerminal := observedNonTerminal
          extraPollDone := extraPollDone
          timer := timer } := by
  unfold updateRefetchInterval refetchInterval
  split
  · exact ⟨_, _, _, rfl⟩
  · exact ⟨_, _, _, rfl⟩
  · split
    · split
      · exact ⟨_, _, _, rfl⟩
      · exact ⟨_, _, _, rfl⟩
    · exact ⟨_, _, _, rfl⟩

@[simp]
theorem now_updateRefetchInterval : page.updateRefetchInterval.now = page.now := by
  rcases updateRefetchInterval_eq page with ⟨_, _, _, same⟩
  rw [same]

@[simp]
theorem document_updateRefetchInterval :
    page.updateRefetchInterval.document = page.document := by
  rcases updateRefetchInterval_eq page with ⟨_, _, _, same⟩
  rw [same]

@[simp]
theorem frames_updateRefetchInterval :
    page.updateRefetchInterval.frames = page.frames := by
  rcases updateRefetchInterval_eq page with ⟨_, _, _, same⟩
  rw [same]

@[simp]
theorem data_updateRefetchInterval : page.updateRefetchInterval.data = page.data := by
  rcases updateRefetchInterval_eq page with ⟨_, _, _, same⟩
  rw [same]

@[simp]
theorem request_updateRefetchInterval :
    page.updateRefetchInterval.request = page.request := by
  rcases updateRefetchInterval_eq page with ⟨_, _, _, same⟩
  rw [same]

@[simp]
theorem issued_updateRefetchInterval :
    page.updateRefetchInterval.issued = page.issued := by
  rcases updateRefetchInterval_eq page with ⟨_, _, _, same⟩
  rw [same]

@[simp]
theorem watched_updateRefetchInterval :
    page.updateRefetchInterval.watched = page.watched := by
  rcases updateRefetchInterval_eq page with ⟨_, _, _, same⟩
  rw [same]

@[simp]
theorem firstTerminal_updateRefetchInterval :
    page.updateRefetchInterval.firstTerminal = page.firstTerminal := by
  rcases updateRefetchInterval_eq page with ⟨_, _, _, same⟩
  rw [same]

/-- A document that is not terminal is asked for again. -/
theorem updateRefetchInterval_of_nonTerminal {detail : OrderDetail}
    (cached : page.data = some (.ready detail))
    (nonTerminal : isTerminalOrderStatus detail.status = false) :
    page.updateRefetchInterval =
      { page with
        observedNonTerminal := true
        timer := some ⟨page.now + staleStatusBackstopMs, staleStatusBackstopMs⟩ } := by
  unfold updateRefetchInterval refetchInterval
  rw [cached]
  simp [nonTerminal]

/-- So is a terminal one, once, where the page saw it turn terminal. -/
theorem updateRefetchInterval_of_turned {detail : OrderDetail}
    (cached : page.data = some (.ready detail))
    (terminal : isTerminalOrderStatus detail.status = true)
    (observed : page.observedNonTerminal = true) (unpolled : page.extraPollDone = false) :
    page.updateRefetchInterval =
      { page with
        extraPollDone := true
        timer := some ⟨page.now + staleStatusBackstopMs, staleStatusBackstopMs⟩ } := by
  unfold updateRefetchInterval refetchInterval
  rw [cached]
  simp [terminal, observed, unpolled]

/-- Connecting changes the stream alone. -/
theorem startStream_eq (page : OrderPage) :
    ∃ stream, page.startStream = { page with stream := stream } := by
  unfold startStream
  split
  · exact ⟨_, rfl⟩
  · exact ⟨_, rfl⟩

/-- What is cached, recorded and asked when data come in. -/
theorem setData_eq (page : OrderPage) (result : OrderDetailResult) :
    ∃ stream,
      page.setData result =
        { updateRefetchInterval { page.record result with data := some result } with
          stream := stream } :=
  startStream_eq _

/-- The record of what was cached is history. -/
theorem record_eq (page : OrderPage) (result : OrderDetailResult) :
    ∃ watched firstTerminal,
      page.record result =
        { page with watched := watched, firstTerminal := firstTerminal } := by
  unfold record
  split
  · split
    · exact ⟨_, _, rfl⟩
    · exact ⟨_, _, rfl⟩
  · exact ⟨_, _, rfl⟩

theorem record_of_turned {moment : Nat} (result : OrderDetailResult)
    (turned : page.firstTerminal = some moment) : page.record result = page := by
  unfold record
  rw [turned]
  cases result <;> rfl

end Changes

/-! ## What comes from the server -/

/-- What a document keeps while facts are applied to it. -/
structure Grows (document document' : OrderTimelineDocument) : Prop where
  status : isTerminalOrderStatus document.status = true →
    document'.status = document.status
  reason : ∀ reason, document.cancellationReason = some reason →
    document'.cancellationReason = some reason
  eventIds : ∀ eventId ∈ document.events.map TimelineEntry.eventId,
    eventId ∈ document'.events.map TimelineEntry.eventId

theorem grows_applyFact {document : OrderTimelineDocument} {envelope : FactEnvelope}
    (stays : isTerminalOrderStatus document.status = true →
      (applyFact evaluate document envelope).status = document.status) :
    Grows document (applyFact evaluate document envelope) where
  status := stays
  reason := by
    intro reason filled
    rw [cancellationReason_applyFact, filled]
    rfl
  eventIds := by
    intro eventId held
    rw [(eventIds_applyFact evaluate document envelope).mem_iff]
    exact List.mem_append_left _ held

/-- A result that a request may have read: its terminal status is the document's. -/
def ComesFrom (document : Option OrderTimelineDocument) : OrderDetailResult → Prop
  | .pending retryAfterMs => retryAfterMs = some projectionPendingRetryAfterMs
  | .ready detail =>
      ∃ stored, document = some stored ∧
        (isTerminalOrderStatus detail.status = true → stored.status = detail.status)

/-- A frame that was published of an earlier state of the document. -/
def PublishedOf (document : OrderTimelineDocument) : PageFrame → Prop
  | .orderUpdated update =>
      (isTerminalOrderStatus update.status = true → document.status = update.status) ∧
        ∀ reason, update.cancellationReason = some reason →
          document.cancellationReason = some reason
  | .timelineAppended entry => entry.eventId ∈ document.events.map TimelineEntry.eventId

theorem ComesFrom.mono {document document' : OrderTimelineDocument}
    {result : OrderDetailResult} (grows : Grows document document')
    (comes : ComesFrom (some document) result) : ComesFrom (some document') result := by
  cases result with
  | pending retryAfterMs => exact comes
  | ready detail =>
      rcases comes with ⟨stored, same, status⟩
      cases same
      apply Exists.intro document'
      apply And.intro rfl
      intro terminal
      rw [← status terminal]
      apply grows.status
      rw [status terminal]
      exact terminal

theorem PublishedOf.mono {document document' : OrderTimelineDocument} {frame : PageFrame}
    (grows : Grows document document') (published : PublishedOf document frame) :
    PublishedOf document' frame := by
  cases frame with
  | orderUpdated update =>
      constructor
      · intro terminal
        rw [← published.1 terminal]
        apply grows.status
        rw [published.1 terminal]
        exact terminal
      · intro reason its
        exact grows.reason reason (published.2 reason its)
  | timelineAppended entry => exact grows.eventIds _ published

theorem comesFrom_getOrder (document : Option OrderTimelineDocument) :
    ComesFrom document (getOrder document) := by
  cases document with
  | none => rfl
  | some stored => exact ⟨stored, rfl, fun _ => rfl⟩

theorem comesFrom_applyOrderStreamUpdate {update : OrderStreamUpdate}
    (published : ∃ document, page.document = some document ∧
      PublishedOf document (.orderUpdated update)) (detail : OrderDetail) :
    ComesFrom page.document (.ready (applyOrderStreamUpdate update detail)) := by
  rcases published with ⟨document, stored, its⟩
  exact ⟨document, stored, its.1⟩

/-- The frames of a signal are published of the updated document. -/
theorem publishedOf_deliverFact {document updated : OrderTimelineDocument}
    {envelope : FactEnvelope} {signal : UpdateSignal}
    (delivered : deliverFact evaluate document envelope = (updated, some signal)) :
    updated = applyFact evaluate document envelope ∧
      PublishedOf updated (.orderUpdated signal.orderUpdate) ∧
      PublishedOf updated (.timelineAppended signal.timelineEntry) := by
  unfold deliverFact findOneAndUpdate at delivered
  by_cases held : dedupKeyOf envelope.eventId ∈ document.processedEventKeys
  · rw [if_pos held] at delivered
    cases delivered
  · rw [if_neg held, Prod.mk.injEq] at delivered
    rcases delivered with ⟨rfl, signalled⟩
    simp only [toAppliedOrderTimeline, Option.map_map, Option.map_eq_some_iff] at signalled
    rcases signalled with ⟨latest, last, rfl⟩
    apply And.intro rfl
    constructor
    · exact ⟨fun _ => rfl, fun _ => id⟩
    · exact List.mem_map_of_mem (List.mem_of_getLast? last)

/-- Everything the page holds comes from the server. -/
structure FromServer (page : OrderPage) : Prop where
  data : ∀ result, page.data = some result → ComesFrom page.document result
  answer : ∀ issuedAt result, page.request = some ⟨issuedAt, some result⟩ →
    ComesFrom page.document result
  ready : ∀ issuedAt retryAfterMs detail,
    page.request = some ⟨issuedAt, some (.pending retryAfterMs)⟩ →
      page.data ≠ some (.ready detail)
  frames : ∀ frame ∈ page.frames, ∃ document, page.document = some document ∧
    PublishedOf document frame

/-- A page that shows a ready document has one at the server. -/
theorem FromServer.exists_document {detail : OrderDetail} (sound : FromServer page)
    (cached : page.data = some (.ready detail)) :
    ∃ document, page.document = some document ∧
      (isTerminalOrderStatus detail.status = true → document.status = detail.status) :=
  sound.data _ cached

theorem fromServer_opened (document : Option OrderTimelineDocument) :
    FromServer (opened document) where
  data result cached := by contradiction
  answer issuedAt result answered := by
    simp [opened] at answered
  ready issuedAt retryAfterMs detail answered := by
    simp [opened] at answered
  frames frame frameMem := absurd frameMem List.not_mem_nil

theorem FromServer.fetch (sound : FromServer page) : FromServer page.fetch where
  data := by simpa [OrderPage.fetch] using sound.data
  answer := by simp [OrderPage.fetch]
  ready := by simp [OrderPage.fetch]
  frames := by simpa [OrderPage.fetch] using sound.frames

/-- What a result leaves of the page, up to what it is asked for next. -/
theorem FromServer.setData {result : OrderDetailResult}
    (comes : ComesFrom page.document result)
    (answer : ∀ issuedAt result, page.request = some ⟨issuedAt, some result⟩ →
      ComesFrom page.document result)
    (ready : ∀ issuedAt retryAfterMs detail,
      page.request = some ⟨issuedAt, some (.pending retryAfterMs)⟩ →
        result ≠ .ready detail)
    (frames : ∀ frame ∈ page.frames, ∃ document, page.document = some document ∧
      PublishedOf document frame) :
    FromServer (page.setData result) := by
  rcases setData_eq page result with ⟨stream, set⟩
  rcases record_eq page result with ⟨watched, firstTerminal, recorded⟩
  rw [set, recorded]
  constructor
  · simpa using comes
  · simpa using answer
  · simpa using ready
  · simpa using frames

/-- A change of the cached detail that keeps its status, or takes one that comes
from the server. -/
theorem FromServer.setQueryData {update : OrderDetail → OrderDetail}
    (sound : FromServer page)
    (comes : ∀ detail, ComesFrom page.document (.ready detail) →
      ComesFrom page.document (.ready (update detail))) :
    FromServer (page.setQueryData update) := by
  unfold OrderPage.setQueryData
  split
  · exact sound
  · rename_i retryAfterMs cached
    apply FromServer.setData (sound.data _ cached) sound.answer
    · intro _ _ _ _ impossible
      contradiction
    · exact sound.frames
  · rename_i detail cached
    apply FromServer.setData (comes detail (sound.data _ cached)) sound.answer
    · intro issuedAt retryAfterMs _ answered
      exact absurd cached (sound.ready issuedAt retryAfterMs detail answered)
    · exact sound.frames

/-- What comes from the server still does when its document grows. -/
theorem FromServer.grow {document document' : OrderTimelineDocument}
    {frames : List PageFrame} (sound : FromServer page)
    (stored : page.document = some document) (grows : Grows document document')
    (published : ∀ frame ∈ frames, PublishedOf document' frame) :
    FromServer { page with document := some document', frames := page.frames ++ frames } where
  data result cached := by
    have comes := sound.data result cached
    rw [stored] at comes
    exact comes.mono grows
  answer issuedAt result answered := by
    have comes := sound.answer issuedAt result answered
    rw [stored] at comes
    exact comes.mono grows
  ready := sound.ready
  frames := by
    intro frame frameMem
    apply Exists.intro document'
    apply And.intro rfl
    rcases List.mem_append.mp frameMem with old | new
    · rcases sound.frames frame old with ⟨its, same, earlier⟩
      rw [stored, Option.some.injEq] at same
      exact (same ▸ earlier).mono grows
    · exact published frame new

/-- A page that has lost or received frames, through any client. -/
theorem FromServer.drop {frames : List PageFrame} {stream : Option OrderStreamClient}
    (sound : FromServer page) (kept : ∀ frame ∈ frames, frame ∈ page.frames) :
    FromServer { page with frames := frames, stream := stream } where
  data := sound.data
  answer := sound.answer
  ready := sound.ready
  frames frame frameMem := sound.frames frame (kept frame frameMem)

/-- A terminal status that the projector has written stays. -/
def StatusStays (evaluate : Evaluation) (page : OrderPage) : PageAction → Prop
  | .project envelope =>
      ∀ document ∈ page.document, isTerminalOrderStatus document.status = true →
        (applyFact evaluate document envelope).status = document.status
  | _ => True

instance (evaluate : Evaluation) (page : OrderPage) (action : PageAction) :
    Decidable (StatusStays evaluate page action) := by
  cases action <;> unfold StatusStays <;> infer_instance

theorem FromServer.step (sound : FromServer page) (stays : StatusStays evaluate page action)
    (stepped : OrderPage.step evaluate page action = some next) : FromServer next := by
  cases moves_of_step stepped with
  | elapse milliseconds => exact ⟨sound.data, sound.answer, sound.ready, sound.frames⟩
  | seed envelope absent =>
      -- Without a document nothing but a pending result has been read.
      have pending : ∀ {result}, ComesFrom page.document result →
          ComesFrom (some (placeholderSkeleton envelope.correlationId
            envelope.occurredAt)) result := by
        intro result comes
        cases result with
        | pending retryAfterMs => exact comes
        | ready detail =>
            rcases comes with ⟨stored, impossible, -⟩
            rw [absent] at impossible
            contradiction
      constructor
      · exact fun result cached => pending (sound.data result cached)
      · exact fun issuedAt result answered =>
          pending (sound.answer issuedAt result answered)
      · exact sound.ready
      · intro frame frameMem
        rcases sound.frames frame frameMem with ⟨document, impossible, -⟩
        rw [absent] at impossible
        contradiction
  | project envelope document updated signal stored delivered =>
      rcases publishedOf_deliverFact delivered with ⟨rfl, first, second⟩
      apply sound.grow stored (grows_applyFact (stays document stored))
      intro frame frameMem
      simp only [List.mem_cons, List.not_mem_nil, or_false] at frameMem
      rcases frameMem with rfl | rfl
      · exact first
      · exact second
  | read issuedAt unread =>
      constructor
      · exact sound.data
      · intro issuedAt' result answered
        simp only [Option.some.injEq, OrderRequest.mk.injEq] at answered
        rw [← answered.2]
        exact comesFrom_getOrder page.document
      · intro issuedAt' retryAfterMs detail answered cached
        simp only [Option.some.injEq, OrderRequest.mk.injEq] at answered
        rcases sound.exists_document cached with ⟨document, stored, -⟩
        rw [stored] at answered
        exact absurd answered.2 (by simp [getOrder])
      · exact sound.frames
  | respond issuedAt result answered =>
      apply FromServer.setData
      · exact sound.answer issuedAt result answered
      · intro _ _ impossible
        contradiction
      · intro _ _ _ impossible
        contradiction
      · exact sound.frames
  | rearm timer request running due underWay =>
      exact ⟨sound.data, sound.answer, sound.ready, sound.frames⟩
  | poll timer running due idle => exact sound.fetch
  | quiet _ frames stream kept => exact sound.drop kept
  | resync stream => exact (sound.drop fun _ => id).fetch
  | update update rest client stream frames connected new =>
      have published := sound.frames (.orderUpdated update) (by simp [frames])
      apply FromServer.setQueryData
      · apply sound.drop
        rw [frames]
        exact fun frame => List.mem_cons_of_mem _
      · exact fun detail _ => comesFrom_applyOrderStreamUpdate published detail
  | append entry rest client stream frames connected new =>
      apply FromServer.setQueryData
      · apply sound.drop
        rw [frames]
        exact fun frame => List.mem_cons_of_mem _
      · exact fun _ => id

/-! ## The timer -/

/-- The timer and the variables of `refetchInterval` fit what was cached. -/
structure Polls (page : OrderPage) : Prop where
  issued : ∀ instant ∈ page.issued, instant ≤ page.now
  due : ∀ timer, page.timer = some timer →
    timer.deadline ≤ page.now + timer.period ∧ timer.period ≤ staleStatusBackstopMs
  armed : ∀ detail, page.data = some (.ready detail) →
    isTerminalOrderStatus detail.status = false → page.timer ≠ none
  observed : page.watched = true → page.observedNonTerminal = true
  unpolled : page.firstTerminal = none → page.extraPollDone = false
  shown : page.firstTerminal = none → ∀ detail, page.data = some (.ready detail) →
    isTerminalOrderStatus detail.status = false

theorem polls_opened (document : Option OrderTimelineDocument) :
    Polls (opened document) where
  issued instant instantMem := by
    simp only [opened, List.mem_singleton] at instantMem ⊢
    exact instantMem.le
  due timer impossible := by contradiction
  armed detail impossible := by contradiction
  observed impossible := by contradiction
  unpolled _ := rfl
  shown _ detail impossible := by contradiction

/-- Neither the server, the stream nor the request under way is part of it. -/
theorem Polls.outside (polls : Polls page) (document : Option OrderTimelineDocument)
    (frames : List PageFrame) (request : Option OrderRequest)
    (stream : Option OrderStreamClient) :
    Polls
      { page with
        document := document, frames := frames, request := request, stream := stream } where
  issued := polls.issued
  due := polls.due
  armed := polls.armed
  observed := polls.observed
  unpolled := polls.unpolled
  shown := polls.shown

/-- No interval is longer than the backstop's. -/
theorem due_updateRefetchInterval
    (pending : ∀ retryAfterMs, page.data = some (.pending retryAfterMs) →
      retryAfterMs = some projectionPendingRetryAfterMs)
    {timer : RefetchTimer} (running : page.updateRefetchInterval.timer = some timer) :
    timer.deadline ≤ page.now + timer.period ∧ timer.period ≤ staleStatusBackstopMs := by
  have asked : ∃ period, page.refetchInterval.2 = some period ∧
      timer = ⟨page.now + period, period⟩ := by
    rcases Option.map_eq_some_iff.mp running with ⟨period, interval, its⟩
    exact ⟨period, interval, its.symm⟩
  rcases asked with ⟨period, interval, rfl⟩
  apply And.intro le_rfl
  unfold refetchInterval at interval
  split at interval
  · contradiction
  · rename_i retryAfterMs cached
    rw [pending retryAfterMs cached] at interval
    cases interval
    simp only [Option.getD_some, projectionPendingRetryAfterMs, staleStatusBackstopMs]
    omega
  · split at interval
    · split at interval
      · cases interval
        exact le_rfl
      · contradiction
    · cases interval
      exact le_rfl

/-- What was observed stays so, and a document that is not terminal is observed. -/
theorem observed_updateRefetchInterval
    (seen : page.observedNonTerminal = true ∨
      ∃ detail, page.data = some (.ready detail) ∧
        isTerminalOrderStatus detail.status = false) :
    page.updateRefetchInterval.observedNonTerminal = true := by
  rcases seen with observed | ⟨detail, cached, nonTerminal⟩
  · unfold updateRefetchInterval refetchInterval
    split
    · exact observed
    · exact observed
    · split
      · split
        · exact observed
        · exact observed
      · rfl
  · rw [updateRefetchInterval_of_nonTerminal cached nonTerminal]

/-- The catch-up poll is counted for terminal documents only. -/
theorem extraPollDone_updateRefetchInterval
    (nonTerminal : ∀ detail, page.data = some (.ready detail) →
      isTerminalOrderStatus detail.status = false) :
    page.updateRefetchInterval.extraPollDone = page.extraPollDone := by
  unfold updateRefetchInterval refetchInterval
  split
  · rfl
  · rfl
  · rename_i detail cached
    rw [nonTerminal detail cached]
    rfl

/-- Asking for the interval makes the timer fit the data. -/
theorem Polls.updateRefetchInterval
    (issued : ∀ instant ∈ page.issued, instant ≤ page.now)
    (pending : ∀ retryAfterMs, page.data = some (.pending retryAfterMs) →
      retryAfterMs = some projectionPendingRetryAfterMs)
    (observed : page.watched = true → page.observedNonTerminal = true ∨
      ∃ detail, page.data = some (.ready detail) ∧
        isTerminalOrderStatus detail.status = false)
    (unpolled : page.firstTerminal = none → page.extraPollDone = false)
    (shown : page.firstTerminal = none → ∀ detail, page.data = some (.ready detail) →
      isTerminalOrderStatus detail.status = false) :
    Polls page.updateRefetchInterval where
  issued := by simpa using issued
  due := by
    intro timer running
    rw [now_updateRefetchInterval]
    exact due_updateRefetchInterval pending running
  armed := by
    intro detail cached nonTerminal
    rw [data_updateRefetchInterval] at cached
    rw [updateRefetchInterval_of_nonTerminal cached nonTerminal]
    exact Option.some_ne_none _
  observed := by
    intro watched
    rw [watched_updateRefetchInterval] at watched
    exact observed_updateRefetchInterval (observed watched)
  unpolled := by
    intro unturned
    rw [firstTerminal_updateRefetchInterval] at unturned
    rw [extraPollDone_updateRefetchInterval (shown unturned)]
    exact unpolled unturned
  shown := by simpa using shown

theorem Polls.fetch (polls : Polls page) (sound : FromServer page) : Polls page.fetch := by
  apply Polls.updateRefetchInterval
  · exact List.forall_mem_cons.mpr ⟨le_rfl, polls.issued⟩
  · exact fun _ cached => sound.data _ cached
  · exact fun watched => Or.inl (polls.observed watched)
  · exact polls.unpolled
  · exact polls.shown

theorem Polls.setData {result : OrderDetailResult} (polls : Polls page)
    (comes : ComesFrom page.document result) : Polls (page.setData result) := by
  rcases setData_eq page result with ⟨stream, set⟩
  have asked : Polls
      (OrderPage.updateRefetchInterval { page.record result with data := some result }) := by
    have pending : ∀ {page : OrderPage} retryAfterMs, page.data = some result →
        page.data = some (.pending retryAfterMs) →
          retryAfterMs = some projectionPendingRetryAfterMs := by
      intro page retryAfterMs its cached
      rw [its, Option.some.injEq] at cached
      subst cached
      exact comes
    cases turned : page.firstTerminal with
    | some moment =>
        rw [record_of_turned result turned]
        apply Polls.updateRefetchInterval
        · exact polls.issued
        · exact fun retryAfterMs => pending retryAfterMs rfl
        · exact fun watched => Or.inl (polls.observed watched)
        · exact fun unturned => absurd (unturned.symm.trans turned) (by simp)
        · exact fun unturned => absurd (unturned.symm.trans turned) (by simp)
    | none =>
        cases result with
        | pending retryAfterMs =>
            have recorded : page.record (.pending retryAfterMs) = page := by
              simp [record]
            rw [recorded]
            apply Polls.updateRefetchInterval
            · exact polls.issued
            · exact fun retryAfterMs => pending retryAfterMs rfl
            · exact fun watched => Or.inl (polls.observed watched)
            · exact polls.unpolled
            · intro _ detail impossible
              simp at impossible
        | ready detail =>
            cases terminal : isTerminalOrderStatus detail.status with
            | true =>
                have recorded : page.record (.ready detail) =
                    { page with firstTerminal := some page.now } := by
                  simp [record, turned, terminal]
                rw [recorded]
                apply Polls.updateRefetchInterval
                · exact polls.issued
                · exact fun retryAfterMs => pending retryAfterMs rfl
                · exact fun watched => Or.inl (polls.observed watched)
                · intro impossible
                  contradiction
                · intro impossible
                  contradiction
            | false =>
                have recorded : page.record (.ready detail) =
                    { page with watched := true } := by
                  simp [record, turned, terminal]
                rw [recorded]
                apply Polls.updateRefetchInterval
                · exact polls.issued
                · exact fun retryAfterMs => pending retryAfterMs rfl
                · exact fun _ => Or.inr ⟨detail, rfl, terminal⟩
                · exact polls.unpolled
                · intro _ other same
                  cases same
                  exact terminal
  rw [set]
  exact asked.outside _ _ _ stream

theorem Polls.setQueryData {update : OrderDetail → OrderDetail} (polls : Polls page)
    (sound : FromServer page)
    (comes : ∀ detail, ComesFrom page.document (.ready detail) →
      ComesFrom page.document (.ready (update detail))) :
    Polls (page.setQueryData update) := by
  unfold OrderPage.setQueryData
  split
  · exact polls
  · rename_i retryAfterMs cached
    exact polls.setData (sound.data _ cached)
  · rename_i detail cached
    exact polls.setData (comes detail (sound.data _ cached))

theorem Polls.step (polls : Polls page) (sound : FromServer page)
    (stepped : OrderPage.step evaluate page action = some next) : Polls next := by
  cases moves_of_step stepped with
  | elapse milliseconds =>
      constructor
      · exact fun instant instantMem => (polls.issued instant instantMem).trans
          (Nat.le_add_right _ _)
      · intro timer running
        have due := polls.due timer running
        simp only
        omega
      · exact polls.armed
      · exact polls.observed
      · exact polls.unpolled
      · exact polls.shown
  | rearm timer request running due underWay =>
      constructor
      · exact polls.issued
      · intro rearmed its
        cases its
        exact ⟨Nat.add_le_add_right due _, (polls.due timer running).2⟩
      · intro _ _ _ impossible
        contradiction
      · exact polls.observed
      · exact polls.unpolled
      · exact polls.shown
  | poll timer running due idle => exact polls.fetch sound
  | respond issuedAt result answered =>
      have cleared : Polls { page with request := none } := polls.outside _ _ none _
      exact cleared.setData (sound.answer issuedAt result answered)
  | resync stream =>
      have opened : Polls { page with stream := stream } := polls.outside _ _ _ stream
      exact opened.fetch ⟨sound.data, sound.answer, sound.ready, sound.frames⟩
  | update update rest client stream frames connected new =>
      have published := sound.frames (.orderUpdated update) (by simp [frames])
      have received : Polls { page with frames := rest, stream := stream } :=
        polls.outside _ rest _ stream
      have taken : FromServer { page with frames := rest, stream := stream } := by
        apply sound.drop
        rw [frames]
        exact fun frame => List.mem_cons_of_mem _
      apply received.setQueryData taken
      exact fun detail _ => comesFrom_applyOrderStreamUpdate published detail
  | append entry rest client stream frames connected new =>
      have received : Polls { page with frames := rest, stream := stream } :=
        polls.outside _ rest _ stream
      have taken : FromServer { page with frames := rest, stream := stream } := by
        apply sound.drop
        rw [frames]
        exact fun frame => List.mem_cons_of_mem _
      apply received.setQueryData taken
      exact fun _ => id
  | seed _ _ | project _ _ _ _ _ _ | read _ _ | quiet _ _ _ _ =>
      exact polls.outside _ _ _ _

end OrderPage

end OrderToCash.Web
