import OrderToCash.Billing.Accounts

/-!
# The verdict of a credit hold

A repeat of a hold is recognised by the hold entry of the order, which a
refusal does not append.  An order gets one verdict as long as its hold is not
run again after a refusal; run again, it is decided afresh.
-/

namespace OrderToCash.Billing

open OrderToCash.Contracts
open OrderToCash.Kernel
open OrderToCash.Transition

namespace OrderCredit

/-- The verdicts the order has been given. -/
def verdicts (credit : OrderCredit) : Nat :=
  credit.emitted .creditApproved + credit.emitted .creditRejected

/-- An order is approved once it is held, and once only. -/
theorem InPhase.emitted_creditApproved {credit : OrderCredit} {amount : Int}
    {phase : CreditPhase} (inPhase : credit.InPhase amount phase) :
    credit.emitted .creditApproved = if phase = .unheld then 0 else 1 := by
  rw [inPhase.emitted_eq (by decide)]
  cases phase <;> rfl

/-- The order has one verdict at most, and after a refusal no hold. -/
structure OneVerdict (credit : OrderCredit) : Prop where
  atMostOne : credit.verdicts ≤ 1
  rejectedAlone : credit.emitted .creditRejected ≠ 0 → ¬ credit.HasHold

theorem Release.countP_verdict {credit : OrderCredit}
    {reason : CreditReleaseReason} {rows : List CreditItemRow} {facts : List Fact}
    (release : credit.Release reason rows facts) :
    facts.countP (·.eventType = .creditApproved) = 0 ∧
      facts.countP (·.eventType = .creditRejected) = 0 := by
  cases release with
  | nothing => exact ⟨rfl, rfl⟩
  | released => exact ⟨rfl, rfl⟩

/-- Rows and facts of an order that has a hold, and no verdict among them. -/
theorem OneVerdict.of_held {credit : OrderCredit} (one : credit.OneVerdict)
    (hasHold : credit.HasHold) (held : OrderCredit)
    (sameFacts : held.facts = credit.facts)
    {rows : List CreditItemRow} {facts : List Fact}
    (noVerdict : facts.countP (·.eventType = .creditApproved) = 0 ∧
      facts.countP (·.eventType = .creditRejected) = 0) :
    (held.posted rows facts).OneVerdict := by
  have same : ∀ eventType, held.emitted eventType = credit.emitted eventType :=
    fun eventType => by rw [emitted, emitted, sameFacts]
  have notRejected : credit.emitted .creditRejected = 0 :=
    not_not.mp fun rejected => one.rejectedAlone rejected hasHold
  constructor
  · rw [verdicts, emitted_posted, emitted_posted, noVerdict.1, noVerdict.2, same,
      same]
    exact one.atMostOne
  · intro rejected
    rw [emitted_posted, noVerdict.2, same, notRejected] at rejected
    exact absurd rfl rejected

/-- A move that is not a hold after a refusal keeps the verdict unique. -/
theorem OneVerdict.move {credit credit' : OrderCredit} {amount : Int}
    {call : BillingCall} (one : credit.OneVerdict)
    (consistent : credit.Consistent amount) (move : credit.Move call credit')
    (notRepeated : ∀ request, call = .creditHold request →
      credit.emitted .creditRejected = 0) : credit'.OneVerdict := by
  obtain ⟨phase, inPhase⟩ := consistent
  cases move with
  | holdRepeated | elsewhere | invoiceRepeated | paymentRepeated => exact one
  | refused request payload first =>
      have noneBefore := notRepeated request rfl
      have isUnheld : phase = .unheld := by
        rwa [inPhase.hasHold_iff, not_not] at first
      have notApproved := inPhase.emitted_creditApproved
      rw [isUnheld] at notApproved
      constructor
      · simp [verdicts, emitted_posted, Fact.eventType, notApproved, noneBefore]
      · intro rejected
        simpa [HasHold, posted] using first
  | approved request payload row first =>
      have noneBefore := notRepeated request rfl
      have isUnheld : phase = .unheld := by
        rwa [inPhase.hasHold_iff, not_not] at first
      have notApproved := inPhase.emitted_creditApproved
      rw [isUnheld] at notApproved
      constructor
      · simp [verdicts, emitted_posted, Fact.eventType, notApproved, noneBefore]
      · intro rejected
        simp [emitted_posted, Fact.eventType, noneBefore] at rejected
  | released request rows facts release =>
      cases release with
      | nothing none => simpa [posted] using one
      | released row payload some =>
          have hasHold : credit.HasHold := by
            rw [inPhase.hasHold_iff]
            rintro rfl
            rw [inPhase.exposure_eq] at some
            exact absurd some (by simp [exposureOf])
          exact one.of_held hasHold credit rfl ⟨rfl, rfl⟩
  | issued request invoice payload row first held isConsume rowAmount isIssued =>
      have isHeld := (inPhase.issued payload held isConsume rowAmount isIssued).1
      have hasHold : credit.HasHold := by
        rw [inPhase.hasHold_iff, isHeld]
        decide
      exact one.of_held hasHold { credit with invoices := [invoice] } rfl
        ⟨rfl, rfl⟩
  | paid request snapshot locked payment payload rows facts only unpaid release =>
      have hasHold : credit.HasHold := by
        rw [inPhase.hasHold_iff]
        rcases (inPhase.paid payment payload only unpaid release).2 with
          rfl | rfl
        · decide
        · decide
      obtain ⟨noApproval, noRejection⟩ := release.countP_verdict
      refine one.of_held hasHold (credit.withPayment payment) rfl ⟨?_, ?_⟩
      · simpa [Fact.eventType] using noApproval
      · simpa [Fact.eventType] using noRejection

end OrderCredit

namespace BillingSystem

/-- The facts of one type the order has been given. -/
def emitted (system : BillingSystem) (order : OrderNumber)
    (eventType : EventType) : Nat :=
  (system.db.outbox.filter (·.orderReference = order)).countP
    (·.eventType = eventType)

/-- The verdict facts of the order. -/
def verdicts (system : BillingSystem) (order : OrderNumber) : Nat :=
  system.emitted order .creditApproved + system.emitted order .creditRejected

/-- The hold whose transaction an action runs. -/
def ranHold? (system : BillingSystem) :
    BillingAction → Option CreditHoldRequest
  | .run index _ =>
      match system.calls[index]? with
      | some (.creditHold request) => some request
      | _ => none
  | _ => none

/-- No hold of the order runs once the order has been refused. -/
def NotAfterRefusal (order : OrderNumber) : Guard BillingSystem BillingAction :=
  fun system action => ∀ request ∈ system.ranHold? action,
    request.orderReference = order → system.emitted order .creditRejected = 0

instance (order : OrderNumber) (system : BillingSystem)
    (action : BillingAction) : Decidable (NotAfterRefusal order system action) :=
  inferInstanceAs (Decidable (∀ request ∈ system.ranHold? action, _ → _))

/-- An order's hold gets one verdict over every run in which none of its repeats
runs after a refusal. -/
theorem hold_verdict_unique (catalogue : CreditCatalogue)
    (hold : CreditHoldRequest) {system : BillingSystem}
    (reached : Reachable step
      (fun state action => SameHoldRequest hold state action ∧
        NotAfterRefusal hold.orderReference state action)
      (initial catalogue) system) :
    system.verdicts hold.orderReference ≤ 1 := by
  have kept : system.Accounted hold ∧
      (system.db.orderCredit hold.orderReference).OneVerdict := by
    induction reached with
    | refl =>
        refine ⟨accounted_initial catalogue hold, ?_, ?_⟩
        · exact Nat.zero_le 1
        · exact fun rejected => absurd rfl rejected
    | tail path admitted stepped inductionHypothesis =>
        obtain ⟨accounted, one⟩ := inductionHypothesis
        obtain ⟨sameRequest, notAfter⟩ := admitted
        refine ⟨accounted_step accounted sameRequest stepped, ?_⟩
        rcases orderCredit_step accounted stepped with
          same | ⟨index, drawn, call, rfl, found, ofOrder, move⟩
        · rw [same]
          exact one
        · apply one.move accounted.consistent move
          rintro request rfl
          apply notAfter request
          · simp [ranHold?, found]
          · exact Option.some.inj ofOrder
  exact kept.2.atMostOne

/-! ## A refusal decided afresh -/

/-- One credit line. -/
def thousandLimit : CreditCatalogue where
  rows := [⟨⟨100⟩, "CRD-0001", "RET-0001", "COM-0001", 1000, .eur⟩]
  ids := by decide
  keys := by decide
  limits := by decide

def holdOf (order : Nat) (amount : Int) : CreditHoldRequest :=
  ⟨⟨order⟩, "RET-0001", "COM-0001", ⟨amount, .eur⟩⟩

/-- The second order is refused beside the first, its reply is lost, the first
order's credit is released, and the hold is delivered again. -/
def approvedAfterRefusal : List BillingAction :=
  [ .receive (.creditHold (holdOf 1 800)),
    .run 0 false,
    .receive (.creditHold (holdOf 2 500)),
    .run 0 false,
    .receive (.creditRelease ⟨⟨1⟩, "RET-0001", "COM-0001"⟩),
    .run 0 false,
    .receive (.creditHold (holdOf 2 500)),
    .run 0 false ]

/-- The order that was refused gets a second, opposite verdict. -/
theorem refused_order_approved :
    ¬ (∀ (catalogue : CreditCatalogue) (hold : CreditHoldRequest)
      (system : BillingSystem),
      Reachable step (SameHoldRequest hold) (initial catalogue) system →
        system.verdicts hold.orderReference ≤ 1) := by
  intro claimed
  have runs : ((execute step (fun state action =>
      decide (SameHoldRequest (holdOf 2 500) state action))
        (initial thousandLimit) approvedAfterRefusal).map fun system =>
      (system.emitted ⟨2⟩ .creditRejected, system.emitted ⟨2⟩ .creditApproved)) =
        some (1, 1) := by
    decide
  obtain ⟨system, ran, twice⟩ := Option.map_eq_some_iff.mp runs
  have unique := claimed thousandLimit (holdOf 2 500) system
    (reachable_of_execute ran)
  simp only [Prod.mk.injEq] at twice
  change system.emitted ⟨2⟩ .creditApproved +
    system.emitted ⟨2⟩ .creditRejected ≤ 1 at unique
  rw [twice.1, twice.2] at unique
  exact absurd unique (by decide)

/-- A run of a refused order that is not asked again. -/
theorem refused_order_once :
    ∃ system,
      execute step (fun state action =>
          decide (SameHoldRequest (holdOf 2 500) state action ∧
            NotAfterRefusal ⟨2⟩ state action))
        (initial thousandLimit) (approvedAfterRefusal.take 7) = some system ∧
      system.verdicts ⟨2⟩ ≤ 1 := by
  have runs : (execute step (fun state action =>
      decide (SameHoldRequest (holdOf 2 500) state action ∧
        NotAfterRefusal ⟨2⟩ state action))
        (initial thousandLimit) (approvedAfterRefusal.take 7)).isSome = true := by
    decide
  obtain ⟨system, ran⟩ := Option.isSome_iff_exists.mp runs
  exact ⟨system, ran, hold_verdict_unique thousandLimit (holdOf 2 500)
    (reachable_of_execute ran)⟩

end BillingSystem

end OrderToCash.Billing
