import OrderToCash.Web.PagePolling
import OrderToCash.Web.TimelineAgreement

/-!
# The order page converges

After the page has watched an order turn terminal, it owes one more request, which
the timer issues when its interval is over.  The timer that was set for it survives
as long as `refetchInterval` is not asked about a terminal document once more.
-/

namespace OrderToCash.Web

open OrderToCash.Contracts
open OrderToCash.Kernel
open OrderToCash.Orders
open OrderToCash.Projector
open OrderToCash.Transition

namespace OrderPage

variable {evaluate : Evaluation} {page next : OrderPage} {action : PageAction}

/-! ## The catch-up request -/

/-- No request was issued since the interval after `moment`. -/
def Owes (page : OrderPage) (moment : Nat) : Prop :=
  ∀ instant ∈ page.issued, instant < moment + staleStatusBackstopMs

instance (page : OrderPage) (moment : Nat) : Decidable (page.Owes moment) :=
  inferInstanceAs (Decidable (∀ _ ∈ page.issued, _))

/-- A cached detail shows what a document says beside its status. -/
def Shows (detail : OrderDetail) (document : OrderTimelineDocument) : Prop :=
  detail.cancellationReason = document.cancellationReason ∧
    detail.events = document.events

/-- Since `moment` the page has shown a ready document.  While it owes a request,
the timer runs past the interval; from then on requests read the document as it
stays. -/
structure CatchesUp (page : OrderPage) (moment : Nat) : Prop where
  past : moment ≤ page.now
  cached : ∃ detail, page.data = some (.ready detail)
  owed : page.Owes moment → ∃ timer, page.timer = some timer ∧
    moment + staleStatusBackstopMs ≤ timer.deadline
  answer : ¬page.Owes moment → ∀ issuedAt result,
    page.request = some ⟨issuedAt, some result⟩ → result = getOrder page.document
  current : ¬page.Owes moment → page.request = none →
    ∃ detail document, page.data = some (.ready detail) ∧
      page.document = some document ∧ Shows detail document

/-- Neither the stream nor what it still brings is part of it. -/
theorem CatchesUp.outside {moment : Nat} (catches : CatchesUp page moment)
    (frames : List PageFrame) (stream : Option OrderStreamClient) :
    CatchesUp { page with frames := frames, stream := stream } moment where
  past := catches.past
  cached := catches.cached
  owed := catches.owed
  answer := catches.answer
  current := catches.current

theorem CatchesUp.fetch {moment : Nat} (catches : CatchesUp page moment)
    (undisturbed : page.Owes moment → page.now < moment + staleStatusBackstopMs →
      ∀ detail, page.data = some (.ready detail) →
        isTerminalOrderStatus detail.status = false) :
    CatchesUp page.fetch moment where
  past := by simpa [OrderPage.fetch] using catches.past
  cached := by simpa [OrderPage.fetch] using catches.cached
  owed := by
    intro owes
    have all : ∀ instant ∈ page.now :: page.issued,
        instant < moment + staleStatusBackstopMs := by
      simpa [Owes, OrderPage.fetch] using owes
    rw [List.forall_mem_cons] at all
    rcases catches.cached with ⟨detail, cached⟩
    have nonTerminal := undisturbed all.2 all.1 detail cached
    have asked := @updateRefetchInterval_of_nonTerminal
      { page with request := some ⟨page.now, none⟩, issued := page.now :: page.issued }
      detail cached nonTerminal
    rw [OrderPage.fetch, asked]
    exact ⟨_, rfl, Nat.add_le_add_right catches.past _⟩
  answer := by
    intro _ issuedAt result answered
    simp [OrderPage.fetch] at answered
  current := by
    intro _ idle
    simp [OrderPage.fetch] at idle

/-- A result cached while the page catches up. -/
theorem catchesUp_setData {moment : Nat} {detail : OrderDetail}
    (turned : page.firstTerminal = some moment) (past : moment ≤ page.now)
    (undisturbed : page.Owes moment → isTerminalOrderStatus detail.status = false)
    (answer : ¬page.Owes moment → ∀ issuedAt result,
      page.request = some ⟨issuedAt, some result⟩ → result = getOrder page.document)
    (current : ¬page.Owes moment → page.request = none →
      ∃ document, page.document = some document ∧ Shows detail document) :
    CatchesUp (page.setData (.ready detail)) moment := by
  rcases setData_eq page (.ready detail) with ⟨stream, set⟩
  rw [set, record_of_turned _ turned]
  constructor
  · simpa using past
  · exact ⟨detail, by simp⟩
  · intro owes
    have nonTerminal := undisturbed (by simpa [Owes] using owes)
    rw [updateRefetchInterval_of_nonTerminal rfl nonTerminal]
    exact ⟨_, rfl, Nat.add_le_add_right past _⟩
  · simpa [Owes] using answer
  · intro settled idle
    rcases current (by simpa [Owes] using settled) (by simpa using idle) with
      ⟨document, stored, shows⟩
    exact ⟨detail, document, by simp, by simpa using stored, shows⟩

/-- The first terminal document sets the timer. -/
theorem catchesUp_turned {detail : OrderDetail} (polls : Polls page)
    (unturned : page.firstTerminal = none) (watched : page.watched = true)
    (terminal : isTerminalOrderStatus detail.status = true) :
    CatchesUp (page.setData (.ready detail)) page.now := by
  have owes : page.Owes page.now := by
    intro instant instantMem
    have bound := polls.issued instant instantMem
    unfold staleStatusBackstopMs
    omega
  have recorded : page.record (.ready detail) =
      { page with firstTerminal := some page.now } := by
    simp [record, unturned, terminal]
  rcases setData_eq page (.ready detail) with ⟨stream, set⟩
  have asked := @updateRefetchInterval_of_turned
    { page with firstTerminal := some page.now, data := some (.ready detail) } detail rfl
    terminal (polls.observed watched) (polls.unpolled unturned)
  rw [set, recorded, asked]
  constructor
  · exact le_rfl
  · exact ⟨detail, rfl⟩
  · exact fun _ => ⟨_, rfl, le_rfl⟩
  · exact fun settled => absurd owes settled
  · exact fun settled => absurd owes settled

/-- A page that watched an order turn terminal catches up with it. -/
def Follows (page : OrderPage) : Prop :=
  page.watched = true → ∀ moment, page.firstTerminal = some moment →
    CatchesUp page moment

theorem follows_setData {result : OrderDetailResult} (polls : Polls page)
    (kept : page.watched = true → ∀ moment, page.firstTerminal = some moment →
      CatchesUp (page.setData result) moment) :
    Follows (page.setData result) := by
  intro watched moment turned
  rcases setData_eq page result with ⟨stream, set⟩
  have recorded : (page.record result).watched = true ∧
      (page.record result).firstTerminal = some moment := by
    rw [set] at watched turned
    simp only [watched_updateRefetchInterval, firstTerminal_updateRefetchInterval]
      at watched turned
    exact ⟨watched, turned⟩
  cases before : page.firstTerminal with
  | some earlier =>
      rw [record_of_turned result before] at recorded
      exact kept recorded.1 moment recorded.2
  | none =>
      cases result with
      | pending retryAfterMs => simp [record, before] at recorded
      | ready detail =>
          cases terminal : isTerminalOrderStatus detail.status with
          | false => simp [record, before, terminal] at recorded
          | true =>
              simp only [record, before, terminal, if_true, Option.some.injEq] at recorded
              rcases recorded with ⟨watchedBefore, rfl⟩
              exact catchesUp_turned polls before watchedBefore terminal

theorem follows_setQueryData {update : OrderDetail → OrderDetail} (polls : Polls page)
    (follows : Follows page)
    (undisturbed : page.watched = true → ∀ moment, page.firstTerminal = some moment →
      page.Owes moment → ∀ detail, page.data = some (.ready detail) →
        isTerminalOrderStatus (update detail).status = false)
    (shows : ∀ detail document, page.document = some document → Shows detail document →
      Shows (update detail) document) :
    Follows (page.setQueryData update) := by
  unfold OrderPage.setQueryData
  split
  · exact follows
  · rename_i retryAfterMs cached
    apply follows_setData polls
    intro watched moment turned
    rcases (follows watched moment turned).cached with ⟨detail, impossible⟩
    rw [cached] at impossible
    cases impossible
  · rename_i detail cached
    apply follows_setData polls
    intro watched moment turned
    have catches := follows watched moment turned
    apply catchesUp_setData turned catches.past
    · exact fun owes => undisturbed watched moment turned owes detail cached
    · exact catches.answer
    · intro settled idle
      rcases catches.current settled idle with ⟨shown, document, same, stored, its⟩
      rw [cached, Option.some.injEq, OrderDetailResult.ready.injEq] at same
      subst same
      exact ⟨document, stored, shows detail document stored its⟩

/-! ## Runs -/

/-- The document does not change after the interval that begins when a terminal
document is first cached; of one instant, the changes come before the requests. -/
def Settles (page : OrderPage) : PageAction → Prop
  | .seed _ | .project _ =>
      ∀ moment ∈ page.firstTerminal,
        page.now ≤ moment + staleStatusBackstopMs ∧ page.Owes moment
  | _ => True

instance (page : OrderPage) : ∀ action, Decidable (page.Settles action)
  | .seed _ | .project _ =>
      inferInstanceAs (Decidable (∀ moment ∈ page.firstTerminal, _ ∧ _))
  | .elapse _ | .read | .respond | .runTimer | .deliver | .lose | .ready _ | .ping
  | .error _ | .retryConnection => instDecidableTrue

/-- What is assumed of the server. -/
def Assumed (evaluate : Evaluation) : Guard OrderPage PageAction :=
  fun page action => page.Settles action ∧ StatusStays evaluate page action

instance (evaluate : Evaluation) (page : OrderPage) (action : PageAction) :
    Decidable (Assumed evaluate page action) :=
  inferInstanceAs (Decidable (_ ∧ _))

def showsTerminal : Option OrderDetailResult → Bool
  | some (.ready detail) => isTerminalOrderStatus detail.status
  | _ => false

/-- The action has `refetchInterval` asked about a terminal document, and is not
the catch-up request that is owed since `moment`. -/
def asksOfTerminal (page : OrderPage) (moment : Nat) : PageAction → Bool
  | .respond =>
      match page.request with
      | some request => showsTerminal request.answer
      | none => false
  | .deliver =>
      match page.frames, page.stream with
      | .orderUpdated update :: _, some client =>
          update.eventId ∉ client.seenOrderUpdateIds ∧ isTerminalOrderStatus update.status
      | .timelineAppended entry :: _, some client =>
          entry.eventId ∉ client.seenTimelineEntryIds ∧ showsTerminal page.data
      | _, _ => false
  | .ready resumed =>
      !resumed && page.now < moment + staleStatusBackstopMs && showsTerminal page.data
  | _ => false

/-- While the page owes its catch-up request, no action has `refetchInterval` asked
about a terminal document. -/
def Undisturbed : Guard OrderPage PageAction := fun page action =>
  page.watched = true → ∀ moment ∈ page.firstTerminal, page.Owes moment →
    page.asksOfTerminal moment action = false

instance (page : OrderPage) (action : PageAction) :
    Decidable (Undisturbed page action) :=
  inferInstanceAs (Decidable (_ → _))

/-! ## What each step keeps -/

namespace Follows

theorem elapse (follows : Follows page) (milliseconds : Nat) :
    Follows { page with now := page.now + milliseconds } := by
  intro watched moment turned
  have catches := follows watched moment turned
  exact ⟨catches.past.trans (Nat.le_add_right _ _), catches.cached, catches.owed,
    catches.answer, catches.current⟩

/-- A page that has shown a ready document has one at the server. -/
theorem seed (follows : Follows page) (sound : FromServer page)
    (absent : page.document = none) (document : Option OrderTimelineDocument) :
    Follows { page with document := document } := by
  intro watched moment turned
  rcases (follows watched moment turned).cached with ⟨detail, cached⟩
  rcases sound.exists_document cached with ⟨stored, impossible, -⟩
  rw [absent] at impossible
  contradiction

/-- The document changes only while the request is owed. -/
theorem project (follows : Follows page)
    (settles : ∀ moment ∈ page.firstTerminal,
      page.now ≤ moment + staleStatusBackstopMs ∧ page.Owes moment)
    (document : Option OrderTimelineDocument) (frames : List PageFrame) :
    Follows { page with document := document, frames := frames } := by
  intro watched moment turned
  have catches := follows watched moment turned
  have owes := (settles moment turned).2
  exact ⟨catches.past, catches.cached, catches.owed, fun settled => absurd owes settled,
    fun settled => absurd owes settled⟩

theorem read (follows : Follows page) (issuedAt : Nat) :
    Follows { page with request := some ⟨issuedAt, some (getOrder page.document)⟩ } := by
  intro watched moment turned
  have catches := follows watched moment turned
  constructor
  · exact catches.past
  · exact catches.cached
  · exact catches.owed
  · intro _ issuedAt' result answered
    simp only [Option.some.injEq, OrderRequest.mk.injEq] at answered
    exact answered.2.symm
  · intro _ impossible
    contradiction

theorem respond {issuedAt : Nat} {result : OrderDetailResult} (follows : Follows page)
    (polls : Polls page) (sound : FromServer page)
    (undisturbed : Undisturbed page .respond)
    (answered : page.request = some ⟨issuedAt, some result⟩) :
    Follows ({ page with request := none }.setData result) := by
  have cleared : Polls { page with request := none } := polls.outside _ _ none _
  apply follows_setData cleared
  intro watched moment turned
  have catches := follows watched moment turned
  cases result with
  | pending retryAfterMs =>
      rcases catches.cached with ⟨detail, cached⟩
      exact absurd cached (sound.ready issuedAt retryAfterMs detail answered)
  | ready detail =>
      apply catchesUp_setData turned catches.past
      · intro owes
        have asked := undisturbed watched moment turned owes
        simpa [asksOfTerminal, answered, showsTerminal] using asked
      · intro _ _ _ impossible
        contradiction
      · intro settled _
        have read := catches.answer settled issuedAt _ answered
        rcases sound.answer issuedAt _ answered with ⟨document, stored, -⟩
        rw [stored, getOrder, OrderDetailResult.ready.injEq] at read
        rw [read]
        exact ⟨document, stored, rfl, rfl⟩

theorem rearm {timer : RefetchTimer} (follows : Follows page)
    (running : page.timer = some timer) :
    Follows
      { page with timer := some ⟨timer.deadline + timer.period, timer.period⟩ } := by
  intro watched moment turned
  have catches := follows watched moment turned
  constructor
  · exact catches.past
  · exact catches.cached
  · intro owes
    rcases catches.owed owes with ⟨its, same, late⟩
    rw [running, Option.some.injEq] at same
    subst same
    exact ⟨_, rfl, late.trans (Nat.le_add_right _ _)⟩
  · exact catches.answer
  · exact catches.current

/-- The timer runs after the interval. -/
theorem poll {timer : RefetchTimer} (follows : Follows page)
    (running : page.timer = some timer) (due : timer.deadline ≤ page.now) :
    Follows page.fetch := by
  intro watched moment turned
  have before : page.watched = true ∧ page.firstTerminal = some moment := by
    simpa [OrderPage.fetch] using And.intro watched turned
  have catches := follows before.1 moment before.2
  apply catches.fetch
  intro owes early
  rcases catches.owed owes with ⟨its, same, late⟩
  rw [running, Option.some.injEq] at same
  subst same
  omega

theorem outside (follows : Follows page) (frames : List PageFrame)
    (stream : Option OrderStreamClient) :
    Follows { page with frames := frames, stream := stream } := by
  intro watched moment turned
  exact (follows watched moment turned).outside frames stream

theorem resync (follows : Follows page) (undisturbed : Undisturbed page (.ready false))
    (stream : Option OrderStreamClient) :
    Follows { page with stream := stream }.fetch := by
  intro watched moment turned
  have before : page.watched = true ∧ page.firstTerminal = some moment := by
    simpa [OrderPage.fetch] using And.intro watched turned
  have catches := follows before.1 moment before.2
  have opened : CatchesUp { page with stream := stream } moment :=
    catches.outside _ stream
  apply opened.fetch
  intro owes early detail cached
  have asked := undisturbed before.1 moment before.2 owes
  have shown : page.data = some (.ready detail) := cached
  simpa [asksOfTerminal, shown, showsTerminal, early] using asked

theorem update {update : OrderStreamUpdate} {rest : List PageFrame}
    {client : OrderStreamClient} (follows : Follows page) (polls : Polls page)
    (sound : FromServer page) (undisturbed : Undisturbed page .deliver)
    (frames : page.frames = .orderUpdated update :: rest)
    (connected : page.stream = some client)
    (new : update.eventId ∉ client.seenOrderUpdateIds)
    (stream : Option OrderStreamClient) :
    Follows ({ page with frames := rest, stream := stream }.setQueryData
      (applyOrderStreamUpdate update)) := by
  have received : Polls { page with frames := rest, stream := stream } :=
    polls.outside _ rest _ stream
  apply follows_setQueryData received (follows.outside rest stream)
  · intro watched moment turned owes detail cached
    have asked := undisturbed watched moment turned owes
    have told : isTerminalOrderStatus update.status = false := by
      simpa [asksOfTerminal, frames, connected, new] using asked
    exact told
  · rintro detail document stored ⟨reason, events⟩
    rcases sound.frames (.orderUpdated update) (by simp [frames]) with
      ⟨its, same, published⟩
    rw [show page.document = some document from stored, Option.some.injEq] at same
    subst same
    constructor
    · cases told : update.cancellationReason with
      | none => simpa [applyOrderStreamUpdate, told] using reason
      | some its => simp [applyOrderStreamUpdate, told, published.2 its told]
    · exact events

theorem append {entry : TimelineStreamEntry} {rest : List PageFrame}
    {client : OrderStreamClient} (follows : Follows page) (polls : Polls page)
    (sound : FromServer page) (undisturbed : Undisturbed page .deliver)
    (frames : page.frames = .timelineAppended entry :: rest)
    (connected : page.stream = some client)
    (new : entry.eventId ∉ client.seenTimelineEntryIds)
    (stream : Option OrderStreamClient) :
    Follows ({ page with frames := rest, stream := stream }.setQueryData
      (applyTimelineAppended entry)) := by
  have received : Polls { page with frames := rest, stream := stream } :=
    polls.outside _ rest _ stream
  apply follows_setQueryData received (follows.outside rest stream)
  · intro watched moment turned owes detail cached
    have asked := undisturbed watched moment turned owes
    have shown : page.data = some (.ready detail) := cached
    have nonTerminal : isTerminalOrderStatus detail.status = false := by
      simpa [asksOfTerminal, frames, connected, new, shown, showsTerminal] using asked
    exact nonTerminal
  · rintro detail document stored ⟨reason, events⟩
    rcases sound.frames (.timelineAppended entry) (by simp [frames]) with
      ⟨its, same, published⟩
    rw [show page.document = some document from stored, Option.some.injEq] at same
    subst same
    have present : entry.eventId ∈ detail.events.map TimelineEntry.eventId := by
      rw [events]
      exact published
    apply And.intro reason
    rw [applyTimelineAppended, appendEntry_of_mem present]
    exact events

theorem step (follows : Follows page) (polls : Polls page) (sound : FromServer page)
    (assumed : Assumed evaluate page action) (undisturbed : Undisturbed page action)
    (stepped : OrderPage.step evaluate page action = some next) : Follows next := by
  cases moves_of_step stepped with
  | elapse milliseconds => exact follows.elapse milliseconds
  | seed envelope absent => exact follows.seed sound absent _
  | project envelope document updated signal stored delivered =>
      exact follows.project assumed.1 _ _
  | read issuedAt unread => exact follows.read issuedAt
  | respond issuedAt result answered =>
      exact follows.respond polls sound undisturbed answered
  | rearm timer request running due underWay => exact follows.rearm running
  | poll timer running due idle => exact follows.poll running due
  | quiet _ frames stream kept => exact follows.outside frames stream
  | resync stream => exact follows.resync undisturbed stream
  | update update rest client stream frames connected new =>
      exact follows.update polls sound undisturbed frames connected new stream
  | append entry rest client stream frames connected new =>
      exact follows.append polls sound undisturbed frames connected new stream

end Follows

/-- Everything that is kept of a run. -/
structure Sound (page : OrderPage) : Prop where
  fromServer : FromServer page
  polls : Polls page
  follows : Follows page

theorem sound_of_reachable {document : Option OrderTimelineDocument}
    (reached : Reachable (step evaluate)
      (fun page action => Assumed evaluate page action ∧ Undisturbed page action)
      (opened document) page) : Sound page := by
  induction reached with
  | refl =>
      constructor
      · exact fromServer_opened document
      · exact polls_opened document
      · intro impossible
        contradiction
  | tail _ admitted stepped inductionHypothesis =>
      constructor
      · exact inductionHypothesis.fromServer.step admitted.1.2 stepped
      · exact inductionHypothesis.polls.step inductionHypothesis.fromServer stepped
      · exact inductionHypothesis.follows.step inductionHypothesis.polls
          inductionHypothesis.fromServer admitted.1 admitted.2 stepped

/-- No refetch timer is armed, and no request or frame is in flight. -/
structure AtRest (page : OrderPage) : Prop where
  timer : page.timer = none
  request : page.request = none
  frames : page.frames = []

instance (page : OrderPage) : Decidable page.AtRest :=
  decidable_of_iff (page.timer = none ∧ page.request = none ∧ page.frames = [])
    ⟨fun rest => ⟨rest.1, rest.2.1, rest.2.2⟩,
      fun rest => ⟨rest.timer, rest.request, rest.frames⟩⟩

/-- The cached status, reason and set of events are the server's. -/
def AgreesWithServer (page : OrderPage) : Prop :=
  ∃ detail document, page.data = some (.ready detail) ∧ page.document = some document ∧
    detail.status = document.status ∧
    detail.cancellationReason = document.cancellationReason ∧
    ∀ entry, entry ∈ detail.events ↔ entry ∈ document.events

/-- A page that first cached a terminal document at some moment, and one that was
not terminal before, requests the document again after the interval (until then a
timer is armed, and due within the interval), and agrees with the server when it
is at rest. -/
def Converges (page : OrderPage) : Prop :=
  page.watched = true → ∀ moment, page.firstTerminal = some moment →
    ((∃ instant ∈ page.issued, moment + staleStatusBackstopMs ≤ instant) ∨
      ∃ timer, page.timer = some timer ∧
        timer.deadline ≤ page.now + staleStatusBackstopMs) ∧
    (page.AtRest →
      (∃ instant ∈ page.issued, moment + staleStatusBackstopMs ≤ instant) ∧
        page.AgreesWithServer)

theorem not_owes_iff {moment : Nat} :
    ¬page.Owes moment ↔
      ∃ instant ∈ page.issued, moment + staleStatusBackstopMs ≤ instant := by
  simp [Owes]

theorem Sound.agreesWithServer {moment : Nat} (sound : Sound page)
    (watched : page.watched = true) (turned : page.firstTerminal = some moment)
    (rest : page.AtRest) (settled : ¬page.Owes moment) : page.AgreesWithServer := by
  rcases (sound.follows watched moment turned).current settled rest.request with
    ⟨detail, document, cached, stored, reason, events⟩
  have terminal : isTerminalOrderStatus detail.status = true := by
    by_contra other
    rw [Bool.not_eq_true] at other
    exact sound.polls.armed detail cached other rest.timer
  rcases sound.fromServer.exists_document cached with ⟨its, same, status⟩
  rw [stored, Option.some.injEq] at same
  subst same
  exact ⟨detail, document, cached, stored, (status terminal).symm, reason,
    fun entry => by rw [events]⟩

theorem Sound.converges (sound : Sound page) : page.Converges := by
  intro watched moment turned
  have catches := sound.follows watched moment turned
  by_cases owes : page.Owes moment
  · rcases catches.owed owes with ⟨timer, running, -⟩
    constructor
    · rcases sound.polls.due timer running with ⟨due, short⟩
      exact Or.inr ⟨timer, running, by omega⟩
    · intro rest
      rw [rest.timer] at running
      contradiction
  · constructor
    · exact Or.inl (not_owes_iff.mp owes)
    · intro rest
      exact ⟨not_owes_iff.mp owes, sound.agreesWithServer watched turned rest owes⟩

/-- The page converges in every run in which nothing asks `refetchInterval` about a
terminal document while the catch-up request is owed. -/
theorem page_converges {document : Option OrderTimelineDocument}
    (reached : Reachable (step evaluate)
      (fun page action => Assumed evaluate page action ∧ Undisturbed page action)
      (opened document) page) : page.Converges :=
  (sound_of_reachable reached).converges

/-! ## A burst -/

def completedFact : FactEnvelope :=
  { eventId := "33333333-3333-4333-8333-333333333333"
    causationId := "22222222-2222-4222-8222-222222222222"
    occurredAt := "2026-08-24T11:00:01.000Z"
    fact := .orderCompleted
      { orderReference := ⟨1⟩
        retailerCode := "RET-0001"
        companyCode := "COM-0001"
        currency := "EUR"
        totalAmount := 100 }
    placement := ⟨"", "", ""⟩ }

def creditReleasedFact : FactEnvelope :=
  { eventId := "44444444-4444-4444-8444-444444444444"
    causationId := "22222222-2222-4222-8222-222222222222"
    occurredAt := "2026-08-24T11:00:01.000Z"
    fact := .creditReleased
      { orderReference := ⟨1⟩
        retailerCode := "RET-0001"
        companyCode := "COM-0001"
        creditCode := "CRE-0001"
        currency := .eur
        releasedAmount := 100
        availableCreditAfter := 1000
        reason := .invoicePaid }
    placement := ⟨"", "", ""⟩ }

/-- The page shows the order paid when its completion and the release of its credit
are projected. -/
def burst : List PageAction :=
  [.read, .respond, .project completedFact, .project creditReleasedFact]

/-- The completion's `order.updated` frame alone reaches the page. -/
def singleFrame : List PageAction :=
  burst ++ [.deliver, .lose, .lose, .lose, .elapse 5000, .runTimer, .read, .respond]

theorem singleFrame_converges :
    ∃ page,
      execute (step verbatim)
          (fun page action =>
            decide (Assumed verbatim page action ∧ Undisturbed page action))
          (opened (some paidDocument)) singleFrame = some page ∧
        page.AtRest ∧ page.AgreesWithServer := by
  have ends : (execute (step verbatim)
      (fun page action =>
        decide (Assumed verbatim page action ∧ Undisturbed page action))
      (opened (some paidDocument)) singleFrame).any
        (fun page => decide (page.AtRest ∧ page.watched = true ∧
          page.firstTerminal = some 0)) = true := by
    decide +kernel
  rcases (Option.any_eq_true_iff_get _ _).mp ends with ⟨ran, rests⟩
  rcases of_decide_eq_true rests with ⟨rest, watched, turned⟩
  have executed := (Option.some_get ran).symm
  have converges := page_converges (reachable_of_execute executed)
  exact ⟨_, executed, rest, ((converges watched 0 turned).2 rest).2⟩

/-- Both frames of the completion reach the page: the second takes the timer of the
first away, and the release, whose frames are lost, is never shown. -/
def bothFrames : List PageAction :=
  burst ++ [.deliver, .deliver, .lose, .lose]

theorem page_not_always_converges :
    ¬∀ (evaluate : Evaluation) (document : Option OrderTimelineDocument)
        (page : OrderPage),
        Reachable (step evaluate) (Assumed evaluate) (opened document) page →
        page.Converges := by
  intro always
  have ends : (execute (step verbatim)
      (fun page action => decide (Assumed verbatim page action))
      (opened (some paidDocument)) bothFrames).any
        (fun page => decide (page.AtRest ∧ page.watched = true ∧
          page.firstTerminal = some 0 ∧ page.Owes 0)) = true := by
    decide +kernel
  rcases (Option.any_eq_true_iff_get _ _).mp ends with ⟨ran, rests⟩
  rcases of_decide_eq_true rests with ⟨rest, watched, turned, owes⟩
  have reached := reachable_of_execute (Option.some_get ran).symm
  have converges := always verbatim (some paidDocument) _ reached
  exact not_owes_iff.mpr ((converges watched 0 turned).2 rest).1 owes

end OrderPage

end OrderToCash.Web
