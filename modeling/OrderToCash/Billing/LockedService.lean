import OrderToCash.Billing.LineLocks
import OrderToCash.Locking.Service

/-!
# The Billing service, lock by lock

A transaction writes to the ledger of the line it locked, to the invoice it
locked, and takes a number only with the lock on the sequence.  So requests of
different credit lines go on side by side, and the service still does what it
does when its transactions run whole.  The line always comes first, its ledger
after it, then the invoice and the number: no two transactions wait for each
other.
-/

namespace OrderToCash.Billing

open OrderToCash.Checked
open OrderToCash.Contracts
open OrderToCash.Kernel
open OrderToCash.Locking
open OrderToCash.Table
open OrderToCash.Transition

/-! ## What a transaction leaves alone -/

/-- The credit line a call locks. -/
def BillingCall.lineCodes : BillingCall → String × String
  | .creditHold request => (request.retailerCode, request.companyCode)
  | .creditRelease request => (request.retailerCode, request.companyCode)
  | .invoiceIssue request => (request.retailerCode, request.companyCode)
  | .paymentLooked _ => ("", "")
  | .paymentRegister _ snapshot => (snapshot.retailerCode, snapshot.companyCode)

/-- The order whose invoice a call locks. -/
def BillingCall.invoiceOrder : BillingCall → Option OrderNumber
  | .invoiceIssue request => some request.orderReference
  | .paymentRegister _ snapshot => some snapshot.orderReference
  | .creditHold _ | .creditRelease _ | .paymentLooked _ => none

/-- The resources the transaction of a call may change. -/
def BillingCall.Reaches (call : BillingCall) (db : BillingDb) : Resource → Prop
  | .line _ _ => False
  | .ledger creditId =>
      ∃ row, db.findCredit call.lineCodes.1 call.lineCodes.2 = some row ∧ row.id = creditId
  | .invoice order => call.invoiceOrder = some order
  | .invoiceNumbers =>
      ∃ request credit, call = .invoiceIssue request ∧
        db.lockForOrder request.retailerCode request.companyCode
          request.orderReference = .ok credit ∧
        BillingDb.AllocatesNumber request credit
          (db.findByOrderReference request.orderReference)

namespace BillingDb

variable {db db' : BillingDb}

/-- Rows on one line leave the ledgers of the others as they are. -/
theorem readResource_ledger {line creditId : UniqueId} {rows : List CreditItemRow}
    (creditItems : db'.creditItems = db.creditItems ++ rows)
    (onLine : ∀ row ∈ rows, row.creditId = line) (apart : line ≠ creditId) :
    db'.readResource (.ledger creditId) = db.readResource (.ledger creditId) := by
  have elsewhere : rows.filter (·.creditId = creditId) = [] := by
    rw [List.filter_eq_nil_iff]
    intro row rowMem same
    exact apart ((onLine row rowMem).symm.trans (of_decide_eq_true same))
  simp only [readResource, creditItems, List.filter_append, elsewhere, List.append_nil]

theorem ReleaseEffect.onLine {order : OrderNumber} {line : CreditRow}
    {reason : CreditReleaseReason} {rows : List CreditItemRow} {facts : List Fact}
    (effect : db.ReleaseEffect order line reason rows facts) :
    ∀ row ∈ rows, row.creditId = line.id := by
  intro row rowMem
  cases effect with
  | nothing => cases rowMem
  | released =>
      rw [List.mem_singleton.mp rowMem]
      rfl

/-- An invoicing that allocates no number writes nothing. -/
theorem issueLoaded_eq_self {request : InvoiceIssueRequest} {credit : BuyerCredit}
    {existing : Option InvoiceRow} {number : Nat} {reply : BillingReply}
    (made : db.issueLoaded request credit existing number = .ok (db', reply))
    (allocatesNot : ¬ AllocatesNumber request credit existing) : db' = db := by
  unfold issueLoaded at made
  cases existing with
  | some existing =>
      cases made
      rfl
  | none =>
      simp only [ite_error_eq_ok_iff, not_not] at made
      rcases made with ⟨sameCurrency, held, _⟩
      exact absurd ⟨rfl, sameCurrency, Int.not_le.mp held⟩ allocatesNot

end BillingDb

namespace BillingSystem

open BillingDb

variable {db db' : BillingDb} {call : BillingCall} {drawn : Bool} {reply : BillingReply}

/-- A committed transaction changes only what its call reaches. -/
theorem transaction_frame (sound : db.Sound) (resolved : call.Resolved db)
    (result : transaction db drawn call = some (.ok (db', reply))) (resource : Resource)
    (apart : ¬ call.Reaches db resource) :
    db'.readResource resource = db.readResource resource := by
  cases call with
  | creditHold request =>
      rcases hold_effect (Option.some.inj result) with ⟨line, found, effect⟩
      cases effect with
      | repeated => rfl
      | refused =>
          cases resource with
          | ledger creditId =>
              exact readResource_ledger rfl (List.forall_mem_nil _)
                fun same => apart ⟨line, found, same⟩
          | line | invoice | invoiceNumbers => rfl
      | approved =>
          cases resource with
          | ledger creditId =>
              refine readResource_ledger rfl (List.forall_mem_singleton.mpr rfl)
                fun same => apart ⟨line, found, same⟩
          | line | invoice | invoiceNumbers => rfl
  | creditRelease request =>
      rcases releaseCredit_effect (Option.some.inj result) with
        ⟨line, rows, facts, count, found, effect, rfl⟩
      cases resource with
      | ledger creditId =>
          exact readResource_ledger rfl effect.onLine fun same => apart ⟨line, found, same⟩
      | line | invoice | invoiceNumbers => rfl
  | invoiceIssue request =>
      have made := Option.some.inj result
      rw [issueInvoice_eq] at made
      rcases bind_eq_ok_iff.mp made with ⟨credit, loaded, made⟩
      rcases issueInvoice_effect (Option.some.inj result) with ⟨line, found, effect⟩
      cases effect with
      | repeated => rfl
      | issued invoice payload first held identifier reference ofOrder =>
          cases resource with
          | line => rfl
          | ledger creditId =>
              exact readResource_ledger rfl (List.forall_mem_singleton.mpr rfl)
                fun same => apart ⟨line, found, same⟩
          | invoice order =>
              have differs : invoice.orderReference ≠ order := fun same =>
                apart (congrArg some (ofOrder.symm.trans same))
              simp [readResource, findByOrderReference, afterIssue, List.find?_append,
                differs]
          | invoiceNumbers =>
              by_cases allocates : AllocatesNumber request credit
                  (db.findByOrderReference request.orderReference)
              · exact absurd ⟨request, credit, rfl, loaded, allocates⟩ apart
              · rw [issueLoaded_eq_self made allocates]
  | paymentLooked request => cases result
  | paymentRegister request snapshot =>
      rcases registerPayment_effect (Option.some.inj result) with ⟨line, found, effect⟩
      cases effect with
      | repeated => rfl
      | paid locked payment payload rows facts foundInvoice unpaid first reference ofInvoice
          ofOrder total release =>
          have isLater := (locked_of_resolved sound resolved foundInvoice).2
          cases resource with
          | line => rfl
          | invoiceNumbers => rfl
          | ledger creditId =>
              exact readResource_ledger rfl release.onLine
                fun same => apart ⟨line, found, same⟩
          | invoice order =>
              apply find?_map_of_kept
              · intro row _
                split <;> rfl
              · intro row stored isOrder
                apply if_neg
                intro same
                apply apart
                have sameRow : row = locked :=
                  List.inj_on_of_nodup_map sound.invoiceIds stored
                    (List.mem_of_find?_eq_some foundInvoice) same
                rw [← of_decide_eq_true isOrder, sameRow, isLater.fields.2.1]
                rfl

end BillingSystem

/-! ## What a transaction holds in the end -/

section Held

variable {db : BillingDb} {held : List Resource}
  {effect : BillingDb → BillingDb × BillingResult}

/-- After a load the line and its ledger are locked. -/
theorem held_of_lockCredit {retailerCode companyCode : String} {order : OrderNumber}
    {next : BuyerCredit → LineProgram} {credit : BuyerCredit}
    (loaded : db.lockForOrder retailerCode companyCode order = .ok credit)
    (follows : Follows BillingDb.readResource db
      (lockCredit retailerCode companyCode order next) held (.publish effect)) :
    ∃ row later, db.findCredit retailerCode companyCode = some row ∧
      held = .line retailerCode companyCode :: .ledger row.id :: later ∧
        Follows BillingDb.readResource db (next credit) later (.publish effect) := by
  rcases follows_lock_iff.mp follows with ⟨_, absurdity⟩ | ⟨afterLine, rfl, onLine⟩
  · cases absurdity
  have line : db.readResource (.line retailerCode companyCode) =
      db.findCredit retailerCode companyCode := rfl
  rw [line] at onLine
  unfold BillingDb.lockForOrder at loaded
  cases found : db.findCredit retailerCode companyCode with
  | none =>
      rw [found] at loaded
      cases loaded
  | some row =>
      simp only [found] at loaded onLine
      rcases follows_lock_iff.mp onLine with ⟨_, absurdity⟩ | ⟨later, rfl, onLedger⟩
      · cases absurdity
      · have isLoaded := loadedCredit_eq db row order
        simp only [BillingDb.readResource, isLoaded, loaded] at onLedger
        exact ⟨row, later, rfl, rfl, onLedger⟩

theorem ledger_mem_held {retailerCode companyCode : String} {row : CreditRow}
    {creditId : UniqueId} (found : db.findCredit retailerCode companyCode = some row)
    (reaches : ∃ other, db.findCredit retailerCode companyCode = some other ∧
      other.id = creditId) (later : List Resource) :
    .ledger creditId ∈ .line retailerCode companyCode :: .ledger row.id :: later := by
  rcases reaches with ⟨other, isOther, rfl⟩
  rw [Option.some.inj (found.symm.trans isOther)]
  exact List.mem_cons_of_mem _ List.mem_cons_self

/-- A transaction that commits holds all that its call reaches. -/
theorem reaches_held {call : BillingCall} {drawn : Bool} {program : LineProgram}
    {db' : BillingDb} {reply : BillingReply}
    (isProgram : lineProgram drawn call = some program)
    (result : BillingSystem.transaction db drawn call = some (.ok (db', reply)))
    (follows : Follows BillingDb.readResource db program held (.publish effect))
    (resource : Resource) (reaches : call.Reaches db resource) : resource ∈ held := by
  cases call with
  | creditHold request =>
      have made := Option.some.inj result
      rw [BillingDb.hold_eq] at made
      rcases bind_eq_ok_iff.mp made with ⟨amount, isMoney, made⟩
      rcases bind_eq_ok_iff.mp made with ⟨credit, loaded, _⟩
      simp only [lineProgram, isMoney, Option.some.injEq] at isProgram
      subst isProgram
      rcases held_of_lockCredit loaded follows with ⟨row, later, found, rfl, _⟩
      cases resource with
      | line => cases reaches
      | ledger creditId =>
          exact ledger_mem_held found reaches _
      | invoice => cases reaches
      | invoiceNumbers =>
          rcases reaches with ⟨_, _, absurdity, _⟩
          cases absurdity
  | creditRelease request =>
      have made := Option.some.inj result
      rw [BillingDb.releaseCredit_eq] at made
      rcases bind_eq_ok_iff.mp made with ⟨credit, loaded, _⟩
      cases isProgram
      rcases held_of_lockCredit loaded follows with ⟨row, later, found, rfl, _⟩
      cases resource with
      | line => cases reaches
      | ledger creditId =>
          exact ledger_mem_held found reaches _
      | invoice => cases reaches
      | invoiceNumbers =>
          rcases reaches with ⟨_, _, absurdity, _⟩
          cases absurdity
  | invoiceIssue request =>
      have made := Option.some.inj result
      rw [BillingDb.issueInvoice_eq] at made
      rcases bind_eq_ok_iff.mp made with ⟨credit, loaded, _⟩
      cases isProgram
      rcases held_of_lockCredit loaded follows with ⟨row, later, found, rfl, onInvoice⟩
      rcases follows_lock_iff.mp onInvoice with ⟨_, absurdity⟩ | ⟨last, rfl, onNumber⟩
      · cases absurdity
      cases resource with
      | line => cases reaches
      | ledger creditId =>
          exact ledger_mem_held found reaches _
      | invoice order =>
          cases reaches
          exact List.mem_cons_of_mem _ (List.mem_cons_of_mem _ List.mem_cons_self)
      | invoiceNumbers =>
          rcases reaches with ⟨other, otherCredit, same, otherLoaded, allocates⟩
          cases same
          rw [loaded] at otherLoaded
          cases otherLoaded
          have existing : db.readResource (.invoice request.orderReference) =
              db.findByOrderReference request.orderReference := rfl
          rw [existing, if_pos allocates] at onNumber
          rcases follows_lock_iff.mp onNumber with ⟨_, absurdity⟩ | ⟨_, rfl, _⟩
          · cases absurdity
          · simp
  | paymentLooked request => cases result
  | paymentRegister request snapshot =>
      have made := Option.some.inj result
      rw [BillingDb.registerPayment_eq] at made
      rcases bind_eq_ok_iff.mp made with ⟨credit, loaded, _⟩
      cases isProgram
      rcases held_of_lockCredit loaded follows with ⟨row, later, found, rfl, onInvoice⟩
      rcases follows_lock_iff.mp onInvoice with ⟨_, absurdity⟩ | ⟨last, rfl, _⟩
      · cases absurdity
      cases resource with
      | line => cases reaches
      | ledger creditId =>
          exact ledger_mem_held found reaches _
      | invoice order =>
          cases reaches
          exact List.mem_cons_of_mem _ (List.mem_cons_of_mem _ List.mem_cons_self)
      | invoiceNumbers =>
          rcases reaches with ⟨_, _, absurdity, _⟩
          cases absurdity

end Held

/-! ## The order of the locks -/

/-- The line first, then its ledger, the invoice and the invoice numbers. -/
def lockRank : Resource → Nat
  | .line _ _ => 0
  | .ledger _ => 1
  | .invoice _ => 2
  | .invoiceNumbers => 3

theorem ascends_lockCredit {retailerCode companyCode : String} {order : OrderNumber}
    {next : BuyerCredit → LineProgram}
    (goesOn : ∀ credit creditId, (next credit).Ascends lockRank
      [.line retailerCode companyCode, .ledger creditId]) :
    (lockCredit retailerCode companyCode order next).Ascends lockRank [] := by
  refine ⟨List.forall_mem_nil _, fun found => ?_⟩
  rcases found with _ | row
  · trivial
  · refine ⟨List.forall_mem_singleton.mpr Nat.zero_lt_one, fun items => ?_⟩
    simp only
    split
    · trivial
    · exact goesOn _ row.id

/-- Every transaction takes its locks in ascending order. -/
theorem ascends_lineProgram {drawn : Bool} {call : BillingCall} {program : LineProgram}
    (isProgram : lineProgram drawn call = some program) :
    program.Ascends lockRank [] := by
  cases call with
  | creditHold request =>
      cases isProgram
      split
      · trivial
      · exact ascends_lockCredit fun _ _ => trivial
  | creditRelease request =>
      cases isProgram
      exact ascends_lockCredit fun _ _ => trivial
  | invoiceIssue request =>
      cases isProgram
      apply ascends_lockCredit
      intro credit creditId
      refine ⟨by simp [lockRank], fun existing => ?_⟩
      simp only
      split
      · exact ⟨by simp [lockRank], fun _ => trivial⟩
      · trivial
  | paymentLooked request => cases isProgram
  | paymentRegister request snapshot =>
      cases isProgram
      apply ascends_lockCredit
      intro credit creditId
      exact ⟨by simp [lockRank], fun _ => trivial⟩

/-! ## The service -/

/-- At most this many attempts of a transaction, the first one included. -/
def maxAttempts : Nat := 3

/-- The service as its transactions take their locks. -/
def lockService : Service Resource.Value BillingDb BillingResult BillingSystem
    BillingAction BillingCall Bool where
  next := BillingSystem.step
  kind
    | .receive _ => .receives
    | .locate index => .takesUp index
    | .run _ _ => .transacts
    | .abort index => .takesUp index
  db := BillingSystem.db
  calls := BillingSystem.calls
  read := BillingDb.readResource
  opens := fun _ call drawn => lineProgram drawn call
  conclude := fun system index call result =>
    { system.finished index with db := result.1 }.answer call.request result.2
  maxAttempts := maxAttempts

namespace BillingSystem

open BillingDb

/-- The tables are sound, and every payment under way names a stored invoice. -/
def Sound (system : BillingSystem) : Prop :=
  system.db.Sound ∧ ∀ call ∈ system.calls, call.Resolved system.db

/-- A transaction that a call opened, with what it drew. -/
def Opened (system : BillingSystem) (call : BillingCall) (program : LineProgram) : Prop :=
  call.Resolved system.db ∧ ∃ drawn, lineProgram drawn call = some program

theorem resolved_step {system system' : BillingSystem} {action : BillingAction}
    (stepped : step system action = some system') {call : BillingCall}
    (resolved : call.Resolved system.db) : call.Resolved system'.db := by
  cases step_change stepped with
  | committed index drawn other db reply found result =>
      exact resolved_follows (follows_transaction result) resolved
  | received | alreadyInvoiced | alreadyRecorded | unknownInvoice | resolved
  | refused | aborted => exact resolved

theorem sound_locked_step {system system' : BillingSystem} {action : BillingAction}
    (sound : system.Sound) (stepped : step system action = some system') :
    system'.Sound := by
  refine ⟨sound_step sound.1 stepped, ?_⟩
  have old : ∀ call ∈ system.calls, call.Resolved system'.db := fun call callMem =>
    resolved_step stepped (sound.2 call callMem)
  cases step_change stepped with
  | received request call serves unresolved =>
      intro other otherMem
      rcases List.mem_append.mp otherMem with before | new
      · exact old other before
      · rw [List.mem_singleton.mp new]
        cases call with
        | creditHold | creditRelease | invoiceIssue | paymentLooked => trivial
        | paymentRegister payment invoice => exact absurd rfl (unresolved payment invoice)
  | resolved index request invoice looked found =>
      intro other otherMem
      rcases List.mem_append.mp otherMem with before | new
      · exact old other (mem_of_mem_finished before)
      · rw [List.mem_singleton.mp new]
        exact ⟨invoice, found, Or.inl rfl⟩
  | alreadyInvoiced | alreadyRecorded => exact old
  | committed | unknownInvoice | refused | aborted =>
      exact fun other otherMem => old other (mem_of_mem_finished otherMem)

/-- What the transaction of a call comes to, and what it publishes. -/
theorem settled_of_opened {system : BillingSystem} {call : BillingCall}
    {program : LineProgram} (sound : system.db.Sound)
    (opened : Opened system call program) :
    ∃ drawn result, lineProgram drawn call = some program ∧
      transaction system.db drawn call = some result ∧
        program.run readResource system.db = commitOrRollBack system.db result := by
  rcases opened with ⟨resolved, drawn, isProgram⟩
  rcases run_lineProgram sound resolved isProgram with ⟨result, isResult, settles⟩
  exact ⟨drawn, result, isProgram, isResult, settles⟩

/-- A transaction changes only what it holds when it commits. -/
theorem within_of_opened {system : BillingSystem} {call : BillingCall}
    {program : LineProgram} {held : List Resource}
    {effect : BillingDb → BillingDb × BillingResult}
    (sound : system.db.Sound) (opened : Opened system call program)
    (follows : Follows readResource system.db program held (.publish effect))
    (resource : Resource) (notHeld : resource ∉ held) :
    readResource (effect system.db).1 resource = readResource system.db resource := by
  rcases settled_of_opened sound opened with ⟨drawn, result, isProgram, isResult, settles⟩
  have publishes : effect system.db = commitOrRollBack system.db result :=
    follows.run_eq.symm.trans settles
  rw [publishes]
  cases result with
  | error error => rfl
  | ok value =>
      rcases value with ⟨db', reply⟩
      apply transaction_frame sound opened.1 isResult
      intro reaches
      exact notHeld (reaches_held isProgram isResult follows resource reaches)

/-- The locks make the service serializable. -/
theorem serializable : lockService.Serializable Sound Opened where
  sound := fun _ _ _ => sound_locked_step
  stays := fun _ _ _ _ _ _ stepped opened =>
    ⟨resolved_step stepped opened.1, opened.2⟩
  receives := by
    intro system action system' isKind stepped
    cases step_change stepped with
    | received => exact ⟨rfl, _, rfl⟩
    | alreadyInvoiced => exact ⟨rfl, [], (List.append_nil _).symm⟩
    | alreadyRecorded => exact ⟨rfl, [], (List.append_nil _).symm⟩
    | unknownInvoice | resolved | committed | refused | aborted => cases isKind
  takesUp := by
    intro system action system' index isKind stepped
    cases step_change stepped with
    | received | alreadyInvoiced | alreadyRecorded | committed | refused => cases isKind
    | unknownInvoice =>
        cases isKind
        exact ⟨rfl, [], (List.append_nil _).symm⟩
    | resolved =>
        cases isKind
        exact ⟨rfl, _, rfl⟩
    | aborted =>
        cases isKind
        exact ⟨rfl, [], (List.append_nil _).symm⟩
  concludes := fun _ _ _ _ => ⟨rfl, rfl⟩
  opened := fun _ call drawn _ sound callMem opens =>
    ⟨sound.2 call callMem, drawn, opens⟩
  runs := by
    intro system index call program sound isCall opened
    rcases settled_of_opened sound.1 opened with
      ⟨drawn, result, isProgram, isResult, settles⟩
    have isFound : system.calls[index]? = some call := isCall
    refine ⟨.run index drawn, ?_⟩
    change system.run index drawn = some (lockService.conclude system index call
      (program.run readResource system.db))
    rw [settles]
    simp only [run, isFound, isResult]
    cases result with
    | ok value => rfl
    | error error => rfl
  within := fun _ _ _ _ _ sound opened follows =>
    within_of_opened sound.1 opened follows

/-- One class of resources is locked after the other. -/
theorem locksInOrder : Service.LocksInOrder lockRank Sound Opened := by
  rintro system call program _ ⟨_, drawn, isProgram⟩
  exact ascends_lineProgram isProgram

theorem kept_initial (catalogue : CreditCatalogue) :
    lockService.Kept Sound Opened (Session.start (initial catalogue)) where
  sound := ⟨sound_initial catalogue, List.forall_mem_nil _⟩
  aligned := ⟨rfl, fun _ _ found => by cases found⟩
  locked := Locked.nil

/-- The requests that were answered. -/
def answered (system : BillingSystem) : List BillingRequest :=
  system.answers.map BillingAnswer.request

/-- The requests that were answered, and those under way. -/
def requests (system : BillingSystem) : List BillingRequest :=
  system.answered ++ system.calls.map BillingCall.request

theorem answered_conclude (system : BillingSystem) (index : Nat) (call : BillingCall)
    (result : BillingDb × BillingResult) :
    answered (lockService.conclude system index call result) =
      system.answered ++ [call.request] := by
  simp [answered, lockService, answer, finished]

/-- Credit lines, ledgers and invoices are locked in turns, and the service does what
it does when each of its transactions runs whole. -/
theorem credit_locks_keep_runs_whole (catalogue : CreditCatalogue)
    {session : Session Resource.Value BillingDb BillingResult BillingSystem}
    (reached : Reachable lockService.lockStep unguarded
      (Session.start (initial catalogue)) session) :
    Reachable step unguarded (initial catalogue) session.system :=
  ((kept_initial catalogue).reachable serializable .refl reached).2

/-- Two holds that do not both fit; the second waits for the line with its
transaction open. -/
def lineInTurns : List (LockAction BillingAction Bool) :=
  [ .outside (.receive (.creditHold (holdOf 1 600))),
    .outside (.receive (.creditHold (holdOf 2 500))),
    .opening 0 false,
    .opening 1 false,
    .acquire 0,
    .acquire 0,
    .commit 0,
    .acquire 0,
    .acquire 0,
    .commit 0 ]

/-- The hold that waited sees what the other one left. -/
theorem line_in_turns_is_whole :
    ∃ session,
      Reachable lockService.lockStep unguarded (Session.start (initial thousandLimit))
        session ∧
      session.system.db.outbox.map Fact.eventType = [.creditApproved, .creditRejected] ∧
      Reachable step unguarded (initial thousandLimit) session.system := by
  have runs : (execute lockService.lockStep
      (fun session action => decide (unguarded session action))
      (Session.start (initial thousandLimit)) lineInTurns).map
        (fun session => session.system.db.outbox.map Fact.eventType) =
      some [.creditApproved, .creditRejected] := by
    decide +kernel
  rcases Option.map_eq_some_iff.mp runs with ⟨session, ran, outbox⟩
  have reached : Reachable lockService.lockStep unguarded
      (Session.start (initial thousandLimit)) session := reachable_of_execute ran
  exact ⟨session, reached, outbox, credit_locks_keep_runs_whole thousandLimit reached⟩

/-- By their row locks alone, no credit transactions block each other for good: wherever
some are open, taking free locks and committing is enough to answer every one of them,
and the other calls stay as they are. -/
theorem open_credit_transactions_end (catalogue : CreditCatalogue)
    {session : Session Resource.Value BillingDb BillingResult BillingSystem}
    (reached : Reachable lockService.lockStep unguarded
      (Session.start (initial catalogue)) session) :
    ∃ session', Reachable lockService.lockStep (fun _ action => action.Advances) session
        session' ∧
      session'.system.calls = Service.idleCalls session.system.calls session.threads ∧
      session'.system.requests.Perm session.system.requests ∧
      ∀ slot ∈ session'.threads, slot = none := by
  have kept := ((kept_initial catalogue).reachable serializable .refl reached).1
  rcases kept.exists_concluded serializable locksInOrder with
    ⟨session', advances, idle, closed⟩
  refine ⟨session', advances, idle, ?_, closed⟩
  exact Service.perm_of_advances answered_conclude serializable advances

/-- With both holds open and one of them waiting, both are answered. -/
theorem waiting_holds_end :
    ∃ session,
      Reachable lockService.lockStep unguarded (Session.start (initial thousandLimit))
        session ∧
      (lockService.lockStep session (.acquire 1)).isNone = true ∧
      ∃ session', Reachable lockService.lockStep (fun _ action => action.Advances) session
          session' ∧
        session'.system.calls = [] ∧
        session'.system.requests.Perm session.system.requests := by
  have runs : (execute lockService.lockStep
      (fun session action => decide (unguarded session action))
      (Session.start (initial thousandLimit)) (lineInTurns.take 5)).map (fun session =>
        ((lockService.lockStep session (.acquire 1)).isNone,
          Service.idleCalls session.system.calls session.threads)) =
      some (true, []) := by
    decide +kernel
  rcases Option.map_eq_some_iff.mp runs with ⟨session, ran, shown⟩
  have reached : Reachable lockService.lockStep unguarded
      (Session.start (initial thousandLimit)) session := reachable_of_execute ran
  rcases open_credit_transactions_end thousandLimit reached with
    ⟨session', advances, idle, answered, _⟩
  exact ⟨session, reached, congrArg Prod.fst shown, session', advances,
    idle.trans (congrArg Prod.snd shown), answered⟩

end BillingSystem

end OrderToCash.Billing
