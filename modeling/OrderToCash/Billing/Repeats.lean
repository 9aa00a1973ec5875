import OrderToCash.Billing.Replies

/-!
# Repeats and conflicts

Every request is checked once outside and once inside its transaction.  A repeat
of a request that took effect is answered from the tables, however it is
answered, and writes nothing; a payment that shares only its reference or only
its invoice with a recorded one is refused.
-/

namespace OrderToCash.Billing

open OrderToCash.Checked
open OrderToCash.Contracts
open OrderToCash.Kernel
open OrderToCash.Transition

/-- A resolved payment still names the invoice it carries. -/
def BillingCall.Resolved (db : BillingDb) : BillingCall → Prop
  | .paymentRegister request snapshot =>
      ∃ row, db.resolveInvoice request = some row ∧ row.IsLater snapshot
  | _ => True

/-- The payment reference an answer accepts. -/
def acceptedReference? (answer : BillingAnswer) : Option PaymentReference :=
  match answer.result with
  | .ok (.payment .accepted paymentReference _ _ _) => some paymentReference
  | _ => none

/-- A payment that is answered with success is answered under its own
reference. -/
def BillingAnswer.OwnReference (answer : BillingAnswer) : Prop :=
  ∀ request outcome paymentReference reference order status,
    answer.request = .paymentRegister request →
      answer.result = .ok (.payment outcome paymentReference reference order status) →
        paymentReference = request.paymentReference

namespace BillingDb

/-- The payment would be accepted: its invoice is unpaid, the amount is the
invoice's total and the reference is new. -/
def payable (db : BillingDb) (request : PaymentRegisterRequest)
    (snapshot : InvoiceRow) : Bool :=
  ((db.findById snapshot.id).any fun locked =>
    locked.status = .issued ∧
      request.amount = ⟨locked.totalAmount, locked.currencyCode⟩) &&
    (db.findPaymentByReference request.paymentReference).isNone

/-- A stored invoice is found by its identifier. -/
theorem findById_of_mem {db : BillingDb} (sound : db.Sound) {row : InvoiceRow}
    (stored : row ∈ db.invoices) : db.findById row.id = some row := by
  have found : (db.findById row.id).isSome = true := by
    rw [findById, List.find?_isSome]
    exact ⟨row, stored, decide_eq_true rfl⟩
  rcases Option.isSome_iff_exists.mp found with ⟨other, isOther⟩
  rw [isOther]
  unfold findById at isOther
  have named := List.find?_some isOther
  rw [List.inj_on_of_nodup_map sound.invoiceIds (List.mem_of_find?_eq_some isOther)
    stored (of_decide_eq_true named)]

/-- A resolved invoice is stored. -/
theorem mem_of_resolveInvoice {db : BillingDb} {request : PaymentRegisterRequest}
    {row : InvoiceRow} (resolved : db.resolveInvoice request = some row) :
    row ∈ db.invoices := by
  unfold resolveInvoice at resolved
  split at resolved
  · exact List.mem_of_find?_eq_some resolved
  · exact List.mem_of_find?_eq_some resolved
  · cases resolved

end BillingDb

namespace BillingSystem

open BillingDb

/-- The payment whose transaction an action runs. -/
def ranPayment? (system : BillingSystem) :
    BillingAction → Option (PaymentRegisterRequest × InvoiceRow)
  | .run index _ =>
      match system.calls[index]? with
      | some (.paymentRegister request snapshot) => some (request, snapshot)
      | _ => none
  | _ => none

/-- Every payment that would be accepted names its invoice as it is stored, by
whatever it gives: not by another invoice's reference beside the identifier, not by
an identifier with capitals, and by no `null`. -/
def NamesAsStored : Guard BillingSystem BillingAction :=
  fun system action => ∀ payment ∈ system.ranPayment? action,
    system.db.payable payment.1 payment.2 = true →
      identityMatchesInvoice payment.1 payment.2 = true

instance (system : BillingSystem) (action : BillingAction) :
    Decidable (NamesAsStored system action) :=
  inferInstanceAs (Decidable (∀ payment ∈ system.ranPayment? action, _ → _))

/-- The payment a request's reference finds, if it paid the invoice the request
names, has that very reference, not another spelling that is one to the column. -/
def SpellsAsRecorded : Guard BillingSystem BillingAction
  | system, .receive (.paymentRegister request) =>
      ∀ payment ∈ system.db.findPaymentByReference request.paymentReference,
        (system.db.findById payment.invoiceId).any (identityMatchesInvoice request) =
          true → payment.paymentReference = request.paymentReference
  | _, _ => True

instance (system : BillingSystem) :
    ∀ action, Decidable (SpellsAsRecorded system action)
  | .receive (.paymentRegister request) =>
      inferInstanceAs (Decidable (∀ payment ∈
        system.db.findPaymentByReference request.paymentReference, _ → _))
  | .receive (.creditHold _) => isTrue trivial
  | .receive (.creditRelease _) => isTrue trivial
  | .receive (.invoiceIssue _) => isTrue trivial
  | .locate _ => isTrue trivial
  | .run _ _ => isTrue trivial
  | .abort _ => isTrue trivial

/-! ## What the tables and the answers agree on -/

/-- Every effective answer is remembered by the tables. -/
structure Recorded (system : BillingSystem) : Prop where
  sound : system.db.Sound
  booked : system.db.Booked
  releases : ∀ row ∈ system.db.creditItems, row.type = .release → 0 < row.amount
  calls : ∀ call ∈ system.calls, call.Resolved system.db
  remembered : ∀ answer ∈ system.answers, ∀ reply, answer.result = .ok reply →
    reply.IsEffective = true → system.db.Remembered answer.request reply
  accepted : system.answers.filterMap acceptedReference? =
    system.db.payments.map PaymentRow.paymentReference
  own : ∀ answer ∈ system.answers, answer.OwnReference

theorem recorded_initial (catalogue : CreditCatalogue) :
    (initial catalogue).Recorded where
  sound := sound_initial catalogue
  booked := booked_initial catalogue
  releases := List.forall_mem_nil _
  calls := List.forall_mem_nil _
  remembered := List.forall_mem_nil _
  accepted := rfl
  own := List.forall_mem_nil _

/-- Only an effective answer accepts a payment. -/
theorem isEffective_of_accepted {answer : BillingAnswer}
    {paymentReference : PaymentReference}
    (accepted : acceptedReference? answer = some paymentReference) :
    ∃ reference order status, answer.result =
      .ok (.payment .accepted paymentReference reference order status) := by
  unfold acceptedReference? at accepted
  split at accepted
  · rename_i result
    cases accepted
    exact ⟨_, _, _, result⟩
  · cases accepted

/-- What is not answered as a payment is under no reference. -/
theorem ownReference_of_other {request : BillingRequest}
    {result : Except BillingError BillingReply}
    (other : ∀ payment, request ≠ .paymentRegister payment) :
    BillingAnswer.OwnReference ⟨request, result⟩ :=
  fun payment _ _ _ _ _ served => absurd served (other payment)

/-- A refusal is under no reference. -/
theorem ownReference_of_error (request : BillingRequest) (error : BillingError) :
    BillingAnswer.OwnReference ⟨request, .error error⟩ :=
  fun _ _ _ _ _ _ _ isReply => absurd isReply (by simp)

/-- Calls and answers that add no effect keep what is recorded. -/
theorem Recorded.of_db {system system' : BillingSystem} (recorded : system.Recorded)
    (same : system'.db = system.db)
    (calls : ∀ call ∈ system'.calls,
      call ∈ system.calls ∨ call.Resolved system.db)
    (answers : system'.answers = system.answers ∨ ∃ answer,
      system'.answers = system.answers ++ [answer] ∧
        (∀ reply, answer.result = .ok reply → reply.IsEffective = false) ∧
          answer.OwnReference) :
    system'.Recorded where
  sound := same ▸ recorded.sound
  booked := same ▸ recorded.booked
  releases := same ▸ recorded.releases
  calls := by
    intro call callMem
    rw [same]
    rcases calls call callMem with old | resolved
    · exact recorded.calls call old
    · exact resolved
  remembered := by
    intro answer answerMem reply isReply effective
    rw [same]
    rcases answers with unchanged | ⟨added, appended, notEffective, _⟩
    · rw [unchanged] at answerMem
      exact recorded.remembered answer answerMem reply isReply effective
    · rw [appended] at answerMem
      rcases List.mem_append.mp answerMem with old | new
      · exact recorded.remembered answer old reply isReply effective
      · rw [List.mem_singleton.mp new] at isReply
        rw [notEffective reply isReply] at effective
        cases effective
  accepted := by
    rw [same]
    rcases answers with unchanged | ⟨added, appended, notEffective, _⟩
    · rw [unchanged]
      exact recorded.accepted
    · have none : acceptedReference? added = none := by
        cases isAccepted : acceptedReference? added with
        | none => rfl
        | some paymentReference =>
            rcases isEffective_of_accepted isAccepted with
              ⟨reference, order, status, isReply⟩
            exact absurd (notEffective _ isReply) (by simp [BillingReply.IsEffective])
      rw [appended, List.filterMap_append, List.filterMap_cons_none none]
      simpa using recorded.accepted
  own := by
    intro answer answerMem
    rcases answers with unchanged | ⟨added, appended, _, own⟩
    · exact recorded.own answer (unchanged ▸ answerMem)
    · rw [appended] at answerMem
      rcases List.mem_append.mp answerMem with old | new
      · exact recorded.own answer old
      · rw [List.mem_singleton.mp new]
        exact own

theorem payments_of_other {db db' : BillingDb} {drawn : Bool} {call : BillingCall}
    {reply : BillingReply}
    (other : ∀ request snapshot, call ≠ .paymentRegister request snapshot)
    (result : transaction db drawn call = some (.ok (db', reply))) :
    db'.payments = db.payments := by
  cases call with
  | creditHold request =>
      rcases hold_effect (Option.some.inj result) with ⟨_, _, effect⟩
      cases effect with
      | repeated | refused | approved => rfl
  | creditRelease request =>
      rcases releaseCredit_effect (Option.some.inj result) with
        ⟨_, _, _, _, _, _, rfl⟩
      rfl
  | invoiceIssue request =>
      rcases issueInvoice_effect (Option.some.inj result) with ⟨_, _, effect⟩
      cases effect with
      | repeated | issued => rfl
  | paymentLooked request => cases result
  | paymentRegister request snapshot => exact absurd rfl (other request snapshot)

/-- The invoice a payment locks is the one it names. -/
theorem locked_of_resolved {db : BillingDb} (sound : db.Sound)
    {request : PaymentRegisterRequest} {snapshot locked : InvoiceRow}
    (resolved : (BillingCall.paymentRegister request snapshot).Resolved db)
    (found : db.findById snapshot.id = some locked) :
    db.resolveInvoice request = some locked ∧ locked.IsLater snapshot := by
  rcases resolved with ⟨row, resolvedTo, isLater⟩
  have byId := findById_of_mem sound (mem_of_resolveInvoice resolvedTo)
  rw [isLater.fields.1, found] at byId
  cases Option.some.inj byId
  exact ⟨resolvedTo, isLater⟩

/-- What an effective payment leaves to be remembered. -/
theorem registerPayment_remembered {db db' : BillingDb} (sound : db.Sound)
    {request : PaymentRegisterRequest} {snapshot : InvoiceRow} {reply : BillingReply}
    (resolved : (BillingCall.paymentRegister request snapshot).Resolved db)
    (names : db.payable request snapshot = true →
      identityMatchesInvoice request snapshot = true)
    (follows : db.Follows db')
    (result : db.registerPayment request snapshot = .ok (db', reply))
    (effective : reply.IsEffective = true) :
    db'.Remembered (.paymentRegister request) reply := by
  rcases registerPayment_reply result with
    ⟨locked, found, ⟨payment, _, _, _, _, rfl⟩ |
      ⟨unpaid, total, first, rfl, invoices, payments⟩⟩
  · cases effective
  · rcases locked_of_resolved sound resolved found with ⟨resolvedTo, isLater⟩
    rcases follows.resolveInvoice resolvedTo with ⟨row, rowResolved, rowLater⟩
    have isPayable : db.payable request snapshot = true := by
      simp [payable, found, unpaid, total, first]
    have isPaid : row.status = .paid := by
      have stored := mem_of_resolveInvoice rowResolved
      rw [invoices] at stored
      rcases List.mem_map.mp stored with ⟨before, _, rfl⟩
      have sameId := rowLater.fields.1
      split
      · rfl
      · rename_i differs
        rw [if_neg differs] at sameId
        exact absurd sameId differs
    rw [← rowLater.fields.2.1, ← rowLater.fields.2.2.1]
    apply Remembered.paid request row (db.paymentRow request locked.id) .paid
      rowResolved isPaid
    · unfold findPaymentByReference at first ⊢
      rw [payments, List.find?_append, first]
      simp [paymentRow]
    · rfl
    · exact rowLater.fields.1.symm
    · have matching := names isPayable
      have sameFields := (rowLater.trans isLater).fields
      unfold identityMatchesInvoice at matching ⊢
      rw [sameFields.1, sameFields.2.2.1]
      exact matching

theorem remembered_transaction {db db' : BillingDb} {drawn : Bool}
    {call : BillingCall} {reply : BillingReply} (sound : db.Sound)
    (releases : ∀ row ∈ db.creditItems, row.type = .release → 0 < row.amount)
    (resolved : call.Resolved db)
    (names : ∀ request snapshot, call = .paymentRegister request snapshot →
      db.payable request snapshot = true →
        identityMatchesInvoice request snapshot = true)
    (result : transaction db drawn call = some (.ok (db', reply)))
    (effective : reply.IsEffective = true) :
    db'.Remembered call.request reply := by
  have follows := follows_transaction result
  cases call with
  | creditHold request => exact hold_remembered (Option.some.inj result) effective
  | creditRelease request =>
      exact releaseCredit_remembered releases (Option.some.inj result) effective
  | invoiceIssue request =>
      exact issueInvoice_remembered (Option.some.inj result) effective
  | paymentLooked request => cases result
  | paymentRegister request snapshot =>
      exact registerPayment_remembered sound resolved (names request snapshot rfl)
        follows (Option.some.inj result) effective

/-- What later commits do to a resolved payment. -/
theorem resolved_follows {db db' : BillingDb} {call : BillingCall}
    (follows : db.Follows db') (resolved : call.Resolved db) : call.Resolved db' := by
  cases call with
  | creditHold | creditRelease | invoiceIssue | paymentLooked => trivial
  | paymentRegister request snapshot =>
      rcases resolved with ⟨row, resolvedTo, isLater⟩
      rcases follows.resolveInvoice resolvedTo with ⟨later, laterResolved, isLatest⟩
      exact ⟨later, laterResolved, isLatest.trans isLater⟩

/-- The reply of a payment's transaction is under the payment's own reference. -/
theorem ownReference_transaction {db db' : BillingDb} {drawn : Bool}
    {call : BillingCall} {reply : BillingReply}
    (result : transaction db drawn call = some (.ok (db', reply))) :
    BillingAnswer.OwnReference ⟨call.request, .ok reply⟩ := by
  cases call with
  | creditHold | creditRelease | invoiceIssue =>
      exact ownReference_of_other (by simp [BillingCall.request])
  | paymentLooked request => cases result
  | paymentRegister request snapshot =>
      intro payment outcome paymentReference reference order status served isReply
      cases served
      rcases registerPayment_reply (Option.some.inj result) with
        ⟨locked, _, ⟨recorded, _, _, same, _, rfl⟩ | ⟨_, _, _, rfl, _⟩⟩
      · cases isReply
        exact same
      · cases isReply
        rfl

theorem Recorded.commit {system : BillingSystem} (recorded : system.Recorded)
    {index : Nat} {drawn : Bool} {call : BillingCall} {db : BillingDb}
    {reply : BillingReply} (found : system.calls[index]? = some call)
    (names : NamesAsStored system (.run index drawn))
    (result : transaction system.db drawn call = some (.ok (db, reply))) :
    Recorded ({ system.finished index with db := db }.answer call.request
      (.ok reply)) := by
  have callMem := List.mem_of_getElem? found
  have follows := follows_transaction result
  have named : ∀ request snapshot, call = .paymentRegister request snapshot →
      system.db.payable request snapshot = true →
        identityMatchesInvoice request snapshot = true := by
    rintro request snapshot rfl isPayable
    apply names (request, snapshot) _ isPayable
    simp [ranPayment?, found]
  have effective := remembered_transaction recorded.sound recorded.releases
    (recorded.calls call callMem) named result
  constructor
  · exact sound_transaction recorded.sound result
  · exact booked_transaction recorded.booked recorded.sound result
  · rcases newRows_transaction result with ⟨rows, ledger, newRows⟩
    intro row rowMem isRelease
    rcases List.mem_append.mp (ledger ▸ rowMem : row ∈ system.db.creditItems ++ rows)
      with old | new
    · exact recorded.releases row old isRelease
    · exact (newRows row new).2 isRelease
  · intro other otherMem
    exact resolved_follows follows
      (recorded.calls other (mem_of_mem_finished otherMem))
  · intro answer answerMem earlier isReply isEffective
    rcases List.mem_append.mp answerMem with old | new
    · exact (recorded.remembered answer old earlier isReply isEffective).follows
        follows
    · rw [List.mem_singleton.mp new] at isReply ⊢
      cases isReply
      exact effective isEffective
  · have before := recorded.accepted
    cases isAccepted : acceptedReference? ⟨call.request, .ok reply⟩ with
    | some paymentReference =>
        rcases isEffective_of_accepted isAccepted with
          ⟨reference, order, status, isReply⟩
        cases isReply
        cases call with
        | creditHold | creditRelease | invoiceIssue => cases effective rfl
        | paymentLooked => cases result
        | paymentRegister request snapshot =>
            rcases registerPayment_reply (Option.some.inj result) with
              ⟨locked, _, ⟨_, _, _, _, _, repeated⟩ | ⟨_, _, _, isReply, _, payments⟩⟩
            · cases repeated
            · cases isReply
              simp [finished, answer, List.filterMap_append, before, isAccepted,
                payments, paymentRow]
    | none =>
        have unchanged : db.payments = system.db.payments := by
          cases call with
          | creditHold | creditRelease | invoiceIssue | paymentLooked =>
              exact payments_of_other (by simp) result
          | paymentRegister request snapshot =>
              rcases registerPayment_reply (Option.some.inj result) with
                ⟨locked, _, ⟨_, _, _, _, rfl, _⟩ | ⟨_, _, _, rfl, _, _⟩⟩
              · rfl
              · cases isAccepted
        simp [finished, answer, List.filterMap_append, before, isAccepted, unchanged]
  · intro answer answerMem
    rcases List.mem_append.mp answerMem with old | new
    · exact recorded.own answer old
    · rw [List.mem_singleton.mp new]
      exact ownReference_transaction result

/-- What a first read answers is no effect. -/
theorem answerRecorded_not_effective {db : BillingDb}
    {request : PaymentRegisterRequest} {payment : PaymentRow} {reply : BillingReply}
    (answered : db.answerRecorded request payment = .ok reply) :
    reply.IsEffective = false := by
  unfold answerRecorded at answered
  split at answered
  · cases answered
  · split at answered
    · cases answered
      rfl
    · cases answered

/-- What a first read answers is under the request's own reference, where the
recorded payment is spelled as the request has it. -/
theorem ownReference_answerRecorded {system : BillingSystem}
    {request : PaymentRegisterRequest} {payment : PaymentRow}
    (spells : SpellsAsRecorded system (.receive (.paymentRegister request)))
    (found : system.db.findPaymentByReference request.paymentReference =
      some payment) :
    BillingAnswer.OwnReference
      ⟨.paymentRegister request, system.db.answerRecorded request payment⟩ := by
  intro asked outcome paymentReference reference order status served answered
  cases served
  unfold answerRecorded at answered
  split at answered
  · cases answered
  · rename_i paid isPaid
    split at answered
    · rename_i names
      cases answered
      apply spells payment found
      rw [isPaid]
      exact names
    · cases answered

theorem recorded_step {system system' : BillingSystem} {action : BillingAction}
    (recorded : system.Recorded) (names : NamesAsStored system action)
    (spells : SpellsAsRecorded system action)
    (stepped : step system action = some system') : system'.Recorded := by
  cases step_change stepped with
  | received request call serves unresolved =>
      refine recorded.of_db rfl ?_ (Or.inl rfl)
      intro other otherMem
      rcases List.mem_append.mp otherMem with old | new
      · exact Or.inl old
      · rw [List.mem_singleton.mp new]
        right
        cases call with
        | creditHold | creditRelease | invoiceIssue | paymentLooked => trivial
        | paymentRegister payment invoice =>
            exact absurd rfl (unresolved payment invoice)
  | alreadyInvoiced request existing =>
      refine recorded.of_db rfl (fun _ => Or.inl)
        (Or.inr ⟨_, rfl, ?_, ownReference_of_other (by simp)⟩)
      intro reply isReply
      cases isReply
      rfl
  | alreadyRecorded request payment found =>
      exact recorded.of_db rfl (fun _ => Or.inl)
        (Or.inr ⟨_, rfl, fun _ => answerRecorded_not_effective,
          ownReference_answerRecorded spells found⟩)
  | unknownInvoice index request =>
      refine recorded.of_db rfl
        (fun _ callMem => Or.inl (mem_of_mem_finished callMem))
        (Or.inr ⟨_, rfl, ?_, ownReference_of_error _ _⟩)
      intro reply isReply
      cases isReply
  | refused index drawn call error =>
      refine recorded.of_db rfl
        (fun _ callMem => Or.inl (mem_of_mem_finished callMem))
        (Or.inr ⟨_, rfl, ?_, ownReference_of_error _ _⟩)
      intro reply isReply
      cases isReply
  | aborted index =>
      exact recorded.of_db rfl
        (fun _ callMem => Or.inl (mem_of_mem_finished callMem)) (Or.inl rfl)
  | resolved index request invoice looked found =>
      refine recorded.of_db rfl ?_ (Or.inl rfl)
      intro other otherMem
      rcases List.mem_append.mp otherMem with old | new
      · exact Or.inl (mem_of_mem_finished old)
      · rw [List.mem_singleton.mp new]
        exact Or.inr ⟨invoice, found, Or.inl rfl⟩
  | committed index drawn call db reply found result =>
      exact recorded.commit found names result

/-! ## How a request may be answered -/

/-- One way a request may be answered in a state, with what it writes: by the
transaction of a call under way, by its first read, or by its second read
finding no invoice. -/
inductive MayAnswer (system : BillingSystem) :
    BillingRequest → Except BillingError (BillingDb × BillingReply) → Prop
  | ran (call : BillingCall) (drawn : Bool)
      (result : Except BillingError (BillingDb × BillingReply))
      (underWay : call ∈ system.calls)
      (runs : transaction system.db drawn call = some result) :
      MayAnswer system call.request result
  | read (request : BillingRequest) (result : Except BillingError BillingReply)
      (answered : system.receive request = system.answer request result) :
      MayAnswer system request (result.map fun reply => (system.db, reply))
  | unknown (request : PaymentRegisterRequest)
      (looked : .paymentLooked request ∈ system.calls)
      (none : system.db.resolveInvoice request = none) :
      MayAnswer system (.paymentRegister request)
        (.error (.invoiceNotFound (identityOf request)))

/-- The answer a first read gives. -/
theorem answer_of_received {system : BillingSystem} {request : BillingRequest}
    {result first : Except BillingError BillingReply}
    (answered : system.answer request first = system.answer request result) :
    result = first := by
  have answers := congrArg BillingSystem.answers answered
  simp only [answer, List.append_cancel_left_eq, List.cons.injEq,
    BillingAnswer.mk.injEq, true_and, and_true] at answers
  exact answers.symm

theorem waiting_ne_answer {system : BillingSystem} {call : BillingCall}
    {request : BillingRequest} {result : Except BillingError BillingReply} :
    system.waiting call ≠ system.answer request result := by
  intro same
  have calls := congrArg (fun system => system.calls.length) same
  simp [waiting, answer] at calls

end BillingSystem

/-! ## Repeats -/

namespace BillingDb

variable {db : BillingDb}

/-- A line of the tables can be locked for any order. -/
theorem locks_of_found (sound : db.Sound) {retailerCode companyCode : String}
    {line : CreditRow}
    (found : db.findCredit retailerCode companyCode = some line)
    (order : OrderNumber) :
    db.lockForOrder retailerCode companyCode order =
      .ok (db.toBuyerCreditSnapshot line order) :=
  lockForOrder_isOk found (sound.limits line (findCredit_eq_some found).1)
    (sound.within line (findCredit_eq_some found).1) order

/-- A hold of an order that has one is answered from it. -/
theorem hold_repeat (sound : db.Sound) {request : CreditHoldRequest}
    {line : CreditRow} {row : CreditItemRow}
    (isMoney : Money.of request.amount.amount request.amount.currency.text =
      .ok request.amount)
    (found : db.findCredit request.retailerCode request.companyCode = some line)
    (first : (db.itemsOf line.id request.orderReference).find?
      (·.type = .hold) = some row) (drawn : Bool) :
    ∃ available, db.hold request drawn =
      .ok (db, .alreadyHeld request.orderReference line.code line.currencyCode
        row.amount available) := by
  have evaluates := evaluateHold_snapshot db line
    ⟨request.orderReference, request.amount⟩
  simp only [first] at evaluates
  refine ⟨(db.toBuyerCreditSnapshot line request.orderReference).availableCredit, ?_⟩
  unfold hold
  simp only [bind, Except.bind, Except.mapError, isMoney,
    locks_of_found sound found request.orderReference, evaluates]
  rfl

/-- A release of an order that ties up nothing releases nothing. -/
theorem releaseCredit_repeat (sound : db.Sound) {request : CreditReleaseRequest}
    {line : CreditRow}
    (found : db.findCredit request.retailerCode request.companyCode = some line)
    (nothing : exposureOfRows (db.itemsOf line.id request.orderReference) = 0) :
    ∃ available, db.releaseCredit request =
      .ok (db, .released request.orderReference line.code line.currencyCode none
        available) := by
  refine ⟨(db.toBuyerCreditSnapshot line request.orderReference).availableCredit, ?_⟩
  unfold releaseCredit
  simp only [bind, Except.bind, locks_of_found sound found request.orderReference,
    BuyerCredit.releaseHold, BuyerCredit.outstanding_snapshot, nothing]
  rfl

/-- An invoicing of an order that has an invoice is answered from it. -/
theorem issueInvoice_repeat (sound : db.Sound) {request : InvoiceIssueRequest}
    {line : CreditRow} {row : InvoiceRow}
    (found : db.findCredit request.retailerCode request.companyCode = some line)
    (stored : db.findByOrderReference request.orderReference = some row) :
    db.issueInvoice request = .ok (db, replyFromSnapshot row false) := by
  unfold issueInvoice
  simp only [bind, Except.bind, locks_of_found sound found request.orderReference,
    stored]

/-- The payment of an invoice is the one its identifier finds. -/
theorem findPaymentByInvoiceId_of_mem (booked : db.Booked) {payment : PaymentRow}
    (stored : payment ∈ db.payments) :
    db.findPaymentByInvoiceId payment.invoiceId = some payment := by
  have found : (db.findPaymentByInvoiceId payment.invoiceId).isSome = true := by
    rw [findPaymentByInvoiceId, List.find?_isSome]
    exact ⟨payment, stored, decide_eq_true rfl⟩
  rcases Option.isSome_iff_exists.mp found with ⟨other, isOther⟩
  rw [isOther]
  unfold findPaymentByInvoiceId at isOther
  have named := List.find?_some isOther
  rw [List.inj_on_of_nodup_map booked.onePayment
    (List.mem_of_find?_eq_some isOther) stored (of_decide_eq_true named)]

/-- The recorded payment with a reference is stored, and its reference is one to
the column. -/
theorem findPaymentByReference_eq_some {paymentReference : PaymentReference}
    {payment : PaymentRow}
    (recorded : db.findPaymentByReference paymentReference = some payment) :
    payment ∈ db.payments ∧
      payment.paymentReference.weight = paymentReference.weight := by
  unfold findPaymentByReference at recorded
  have named := List.find?_some recorded
  exact ⟨List.mem_of_find?_eq_some recorded, of_decide_eq_true named⟩

/-- A payment with the reference its invoice was paid with is answered from
it. -/
theorem registerPayment_repeat (sound : db.Sound) (booked : db.Booked)
    {request : PaymentRegisterRequest} {snapshot row : InvoiceRow}
    {payment : PaymentRow} (stored : row ∈ db.invoices)
    (isLater : row.IsLater snapshot) (isPaid : row.status = .paid)
    (paymentMem : payment ∈ db.payments)
    (reference : payment.paymentReference = request.paymentReference)
    (ofInvoice : payment.invoiceId = row.id) :
    db.registerPayment request snapshot =
      .ok (db, replyFromDuplicate row payment) := by
  rcases booked.located row stored with ⟨line, found⟩
  rcases isLater.fields with ⟨sameId, _, _, sameRetailer, sameCompany, _⟩
  rw [sameRetailer, sameCompany] at found
  have byId := findById_of_mem sound stored
  rw [sameId] at byId
  have paidBy : db.paidByRequest row.toInvoiceSnapshot request = some payment := by
    have ofRow := findPaymentByInvoiceId_of_mem booked paymentMem
    rw [ofInvoice] at ofRow
    have ofSnapshot : db.findPaymentByInvoiceId row.toInvoiceSnapshot.id =
        some payment := ofRow
    have paid : row.toInvoiceSnapshot.status = .paid := isPaid
    rw [paidByRequest, if_pos paid, ofSnapshot]
    simp [Option.filter, reference]
  unfold registerPayment
  simp only [bind, Except.bind, locks_of_found sound found snapshot.orderReference,
    byId, booked.rebuilds row stored, paidBy]

/-- A recorded payment answers a request that names its invoice. -/
theorem answerRecorded_repeat (sound : db.Sound) {request : PaymentRegisterRequest}
    {row : InvoiceRow} {payment : PaymentRow} (stored : row ∈ db.invoices)
    (ofInvoice : payment.invoiceId = row.id)
    (names : identityMatchesInvoice request row = true) :
    db.answerRecorded request payment = .ok (replyFromDuplicate row payment) := by
  unfold answerRecorded
  rw [ofInvoice, findById_of_mem sound stored]
  simp only [names, if_true]

end BillingDb

namespace BillingSystem

open BillingDb

/-- However a repeat of an effective request is answered, it is as a duplicate,
and nothing is written. -/
theorem repeats_of_remembered {system : BillingSystem} (recorded : system.Recorded)
    {request : BillingRequest} {reply : BillingReply}
    {result : Except BillingError (BillingDb × BillingReply)}
    (remembered : system.db.Remembered request reply)
    (may : system.MayAnswer request result) :
    ∃ again, result = .ok (system.db, again) ∧ reply.Repeats again := by
  cases may with
  | ran call drawn result underWay runs =>
      cases call with
      | creditHold request =>
          cases remembered with
          | held _ line row available isMoney found first =>
              rcases hold_repeat recorded.sound isMoney found first drawn with
                ⟨availableNow, again⟩
              rw [← Option.some.inj runs, again]
              exact ⟨_, rfl, .held _ _ _ _ _ _⟩
      | creditRelease request =>
          cases remembered with
          | released _ line amount available found held nothing =>
              rcases releaseCredit_repeat recorded.sound found nothing with
                ⟨availableNow, again⟩
              rw [← Option.some.inj runs, again]
              exact ⟨_, rfl, .released _ _ _ _ _ _⟩
      | invoiceIssue request =>
          cases remembered with
          | invoiced _ line row status found stored =>
              rw [← Option.some.inj runs,
                issueInvoice_repeat recorded.sound found stored]
              exact ⟨_, rfl, .invoiced _ _ _ _ _ _ _⟩
      | paymentLooked request => cases runs
      | paymentRegister request snapshot =>
          cases remembered with
          | paid _ row payment status resolved isPaid stored reference ofInvoice
              names =>
              rcases recorded.calls _ underWay with ⟨other, otherResolved, isLater⟩
              cases Option.some.inj (resolved.symm.trans otherResolved)
              rw [← Option.some.inj runs, registerPayment_repeat recorded.sound
                recorded.booked (mem_of_resolveInvoice resolved) isLater isPaid
                (findPaymentByReference_eq_some stored).1 reference ofInvoice]
              rw [← reference]
              exact ⟨_, rfl, .paid _ _ _ _ _⟩
  | read request result answered =>
      cases remembered with
      | held | released => exact absurd answered waiting_ne_answer
      | invoiced request line row status found stored =>
          simp only [receive, stored] at answered
          rw [answer_of_received answered]
          exact ⟨_, rfl, .invoiced _ _ _ _ _ _ _⟩
      | paid request row payment status resolved isPaid stored reference ofInvoice
          names =>
          simp only [receive, stored] at answered
          rw [answer_of_received answered, answerRecorded_repeat recorded.sound
            (mem_of_resolveInvoice resolved) ofInvoice names]
          rw [← reference]
          exact ⟨_, rfl, .paid _ _ _ _ _⟩
  | unknown request looked none =>
      cases remembered with
      | paid _ row payment status resolved =>
          rw [none] at resolved
          cases resolved

/-! ## Payments that conflict -/

/-- What names two invoices by one request is one invoice. -/
theorem eq_of_identityMatches {db : BillingDb} (booked : db.Booked)
    {request : PaymentRegisterRequest} {invoice paid : InvoiceRow}
    (resolved : db.resolveInvoice request = some invoice)
    (stored : paid ∈ db.invoices)
    (names : identityMatchesInvoice request paid = true) : paid.id = invoice.id := by
  rw [identityMatchesInvoice, Bool.and_eq_true] at names
  rcases names with ⟨byId, byReference⟩
  unfold resolveInvoice identityOf at resolved
  split at resolved
  · rename_i text identity
    split at identity
    · rename_i given
      cases identity
      unfold findById at resolved
      have named := List.find?_some resolved
      have sameText := OptionalField.eq_of_absentOr byId given
      rw [of_decide_eq_true named, sameText]
      rfl
    · cases identity
    · cases identity
  · rename_i reference identity
    split at identity
    · cases identity
    · rename_i notGiven given
      cases identity
      unfold findByInvoiceReference at resolved
      have named := List.find?_some resolved
      have sameReference := (OptionalField.eq_of_absentOr byReference given).symm.trans
        (of_decide_eq_true named).symm
      rw [List.inj_on_of_nodup_map booked.references stored
        (List.mem_of_find?_eq_some resolved) sameReference]
    · cases identity
  · cases resolved

/-- A payment is refused where its reference or its invoice, but not both, are
those of a recorded payment. -/
theorem refused_of_conflict {system : BillingSystem} (recorded : system.Recorded)
    {request : PaymentRegisterRequest} {invoice : InvoiceRow} {payment : PaymentRow}
    {result : Except BillingError (BillingDb × BillingReply)}
    (spells : SpellsAsRecorded system (.receive (.paymentRegister request)))
    (resolved : system.db.resolveInvoice request = some invoice)
    (stored : payment ∈ system.db.payments)
    (half : ¬ (payment.paymentReference = request.paymentReference ↔
      payment.invoiceId = invoice.id))
    (may : system.MayAnswer (.paymentRegister request) result) :
    ∃ error, result = .error error := by
  have sameReference : ∀ other ∈ system.db.payments,
      other.paymentReference = payment.paymentReference → other = payment :=
    fun other otherMem same => List.inj_on_of_nodup_map
      recorded.booked.onceReferenced otherMem stored
        (congrArg PaymentReference.weight same)
  have sameInvoice : ∀ other ∈ system.db.payments,
      other.invoiceId = payment.invoiceId → other = payment :=
    fun other otherMem same => List.inj_on_of_nodup_map
      recorded.booked.onePayment otherMem stored same
  have apart : ∀ other ∈ system.db.payments,
      other.paymentReference = request.paymentReference →
        other.invoiceId ≠ invoice.id := by
    intro other otherMem ofRequest ofInvoice
    apply half
    constructor
    · intro reference
      rw [← sameReference other otherMem (ofRequest.trans reference.symm)]
      exact ofInvoice
    · intro ofPayment
      rw [← sameInvoice other otherMem (ofInvoice.trans ofPayment.symm)]
      exact ofRequest
  generalize same : BillingRequest.paymentRegister request = asked at may
  cases may with
  | ran call drawn result underWay runs =>
      cases call with
      | creditHold | creditRelease | invoiceIssue => cases same
      | paymentLooked => cases runs
      | paymentRegister other snapshot =>
          cases same
          cases result with
          | error error => exact ⟨error, rfl⟩
          | ok value =>
              rcases registerPayment_reply (Option.some.inj runs) with
                ⟨locked, found, outcome⟩
              rcases locked_of_resolved recorded.sound
                (recorded.calls _ underWay) found with ⟨lockedResolved, _⟩
              cases Option.some.inj (resolved.symm.trans lockedResolved)
              rcases outcome with
                ⟨paidBy, _, ofInvoice, reference, _⟩ | ⟨unpaid, _, first, _⟩
              · unfold findPaymentByInvoiceId at ofInvoice
                have named := List.find?_some ofInvoice
                exact absurd (of_decide_eq_true named)
                  (apart paidBy (List.mem_of_find?_eq_some ofInvoice) reference)
              · rw [findPaymentByReference, List.find?_eq_none] at first
                have notRecorded : payment.paymentReference ≠
                    request.paymentReference :=
                  fun same => first payment stored
                    (decide_eq_true (congrArg PaymentReference.weight same))
                have ofInvoice : payment.invoiceId = invoice.id := by
                  apply not_not.mp
                  intro differs
                  exact half (iff_of_false notRecorded differs)
                have isPaid := (recorded.booked.paidBy invoice
                  (mem_of_resolveInvoice resolved)).mpr
                    (ofInvoice ▸ List.mem_map_of_mem stored)
                rw [unpaid] at isPaid
                cases isPaid
  | read asked result answered =>
      subst same
      simp only [receive] at answered
      split at answered
      · rename_i other isOther
        rw [answer_of_received answered]
        have otherMem := (findPaymentByReference_eq_some isOther).1
        unfold answerRecorded
        split
        · exact ⟨_, rfl⟩
        · rename_i paid found
          have reference := spells other isOther
          rw [found] at reference
          unfold findById at found
          have named := List.find?_some found
          rw [if_neg]
          · exact ⟨_, rfl⟩
          · intro names
            exact apart other otherMem (reference names)
              ((of_decide_eq_true named).symm.trans (eq_of_identityMatches
                recorded.booked resolved (List.mem_of_find?_eq_some found) names))
      · exact absurd answered waiting_ne_answer
  | unknown => exact ⟨_, rfl⟩

/-- The total of an invoice that can be rebuilt is an amount of money. -/
theorem isMoney_total {invoice : Invoice}
    (rebuilds : invoice.reconstitute = .ok invoice) :
    Money.of invoice.totalAmount.amount invoice.totalAmount.currency.text =
      .ok invoice.totalAmount := by
  simp only [Invoice.reconstitute, ite_error_eq_ok_iff] at rebuilds
  rcases rebuilds with ⟨_, rebuilds⟩
  rcases bind_eq_ok_iff.mp rebuilds with ⟨amount, _, rebuilds⟩
  simp only [ite_error_eq_ok_iff] at rebuilds
  rcases rebuilds with ⟨_, rebuilds⟩
  rcases bind_eq_ok_iff.mp rebuilds with ⟨total, isTotal, rebuilds⟩
  simp only [ite_error_eq_ok_iff, not_not] at rebuilds
  have subtracted := mapError_eq_ok_iff.mp isTotal
  rcases rebuilds with ⟨rfl, _⟩
  unfold Money.subtract at subtracted
  split at subtracted
  · have same := Money.of_text_eq_ok subtracted
    rw [same] at subtracted ⊢
    exact subtracted
  · cases subtracted

/-- A payment of an unpaid invoice by its total is accepted if its reference is
new, and else refused as a conflict. -/
theorem payable_settled {db : BillingDb} (sound : db.Sound) (booked : db.Booked)
    {request : PaymentRegisterRequest} {snapshot locked : InvoiceRow}
    (found : db.findById snapshot.id = some locked)
    (sameRetailer : locked.retailerCode = snapshot.retailerCode)
    (sameCompany : locked.companyCode = snapshot.companyCode)
    (unpaid : locked.status = .issued)
    (total : request.amount = ⟨locked.totalAmount, locked.currencyCode⟩)
    (exposed : ∀ line, db.findCredit snapshot.retailerCode snapshot.companyCode =
        some line →
      0 ≤ exposureOfRows (db.itemsOf line.id snapshot.orderReference)) :
    ((db.findPaymentByReference request.paymentReference = none →
        ∃ db' reply, db.registerPayment request snapshot = .ok (db', reply) ∧
          reply.IsEffective = true) ∧
      (db.findPaymentByReference request.paymentReference ≠ none →
        db.registerPayment request snapshot =
          .error (.paymentReferenceConflict request.paymentReference.text))) := by
  have stored : locked ∈ db.invoices := List.mem_of_find?_eq_some found
  rcases booked.located locked stored with ⟨line, foundLine⟩
  rw [sameRetailer, sameCompany] at foundLine
  have rebuilds := booked.rebuilds locked stored
  have isMoney := isMoney_total rebuilds
  have notPaidBy : db.paidByRequest locked.toInvoiceSnapshot request = none := by
    have notPaid : locked.toInvoiceSnapshot.status ≠ .paid := by
      intro isPaid
      rw [show locked.toInvoiceSnapshot.status = locked.status from rfl, unpaid]
        at isPaid
      cases isPaid
    exact if_neg notPaid
  have isTotal : Money.of request.amount.amount request.amount.currency.text =
      .ok request.amount := by
    rw [total]
    exact isMoney
  have marked : ∃ invoice, locked.toInvoiceSnapshot.markPaid
      ⟨request.paymentReference.text, request.amount, request.source⟩ =
        .ok invoice := by
    simp only [Invoice.markPaid, ite_error_eq_ok_iff, Except.ok.injEq]
    refine ⟨_, ?_, ?_, ?_, rfl⟩
    · intro isPaid
      rw [show locked.toInvoiceSnapshot.status = locked.status from rfl, unpaid]
        at isPaid
      cases isPaid
    · rw [total]
      exact not_not.mpr rfl
    · rw [total]
      exact not_not.mpr rfl
  rcases marked with ⟨invoice, marked⟩
  have notNegative := Int.not_lt.mpr (exposed line foundLine)
  have released : ∃ released, (db.toBuyerCreditSnapshot line
      snapshot.orderReference).releaseHold snapshot.orderReference .invoicePaid
        (db.newId 0) = .ok released := by
    simp only [BuyerCredit.releaseHold, BuyerCredit.outstanding_snapshot,
      ite_error_eq_ok_iff]
    by_cases none : exposureOfRows (db.itemsOf line.id snapshot.orderReference) = 0
    · exact ⟨_, notNegative, if_pos none⟩
    · exact ⟨_, notNegative, if_neg none⟩
  rcases released with ⟨released, isReleased⟩
  unfold registerPayment
  simp only [bind, Except.bind, Except.mapError,
    locks_of_found sound foundLine snapshot.orderReference, found, rebuilds, notPaidBy,
    isTotal, marked, isReleased, BillingDb.markPaid]
  constructor
  · intro first
    have noneRecorded : ¬ ((db.generated 2).findPaymentByReference
        (db.paymentRow request invoice.id).paymentReference).isSome = true := by
      rw [Option.not_isSome_iff_eq_none]
      exact first
    rw [if_neg noneRecorded]
    exact ⟨_, _, rfl, rfl⟩
  · intro recorded
    have isRecorded : ((db.generated 2).findPaymentByReference
        (db.paymentRow request invoice.id).paymentReference).isSome = true :=
      Option.isSome_iff_ne_none.mpr recorded
    rw [if_pos isRecorded]
    rfl

end BillingSystem

end OrderToCash.Billing
