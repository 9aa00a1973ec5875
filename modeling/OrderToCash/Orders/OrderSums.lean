import Mathlib.Algebra.Order.BigOperators.Group.List
import OrderToCash.Orders.AggregateInvariant

/-!
# Totals in another order

The totals of an order are two running sums over its lines, each of which has
to stay within the safe integers on its way.  The same lines in another order
have the same totals, if they have any.
-/

namespace OrderToCash.Orders

open OrderToCash.Checked
open OrderToCash.Kernel

/-- `Number.isSafeInteger`. -/
def IsSafe (amount : Int) : Prop :=
  amount.natAbs ≤ Money.maxSafeInteger

def OrderLine.lineTotal (line : OrderLine) : Int :=
  line.unitPrice.amount * line.quantity.value

/-- What lines add up to before and in discounts. -/
def lineTotals (lines : List OrderLine) : Int :=
  (lines.map OrderLine.lineTotal).sum

def lineDiscounts (lines : List OrderLine) : Int :=
  (lines.map fun line => line.lineDiscount.amount).sum

/-- Added in this order, neither sum of the lines leaves the safe integers. -/
def SafelySummed (lines : List OrderLine) : Prop :=
  ∀ read, read <+: lines → IsSafe (lineTotals read) ∧ IsSafe (lineDiscounts read)

theorem of_eq_ok_iff {amount : Int} {code : CurrencyCode} {money : Money} :
    Money.of amount code.text = .ok money ↔
      IsSafe amount ∧ money = ⟨amount, code⟩ := by
  rw [Money.of_text]
  unfold IsSafe
  split
  · rename_i safe
    simp [safe, eq_comm]
  · rename_i unsafely
    simp [unsafely]

/-- The amounts of lines, in the terms their sum is taken in. -/
structure Addable (currency : CurrencyCode) (line : OrderLine) : Prop where
  price : line.unitPrice.currency = currency
  discount : line.lineDiscount.currency = currency
  product : IsSafe line.lineTotal

/-! ## The running sums -/

/-- A running sum of amounts succeeds where every step of it is safe. -/
theorem prefixes_cons {first : OrderLine} {rest : List OrderLine}
    {amount : OrderLine → Int} {sum : Int} :
    (∀ read, read <+: first :: rest → read ≠ [] →
        IsSafe (sum + (read.map amount).sum)) ↔
      IsSafe (sum + amount first) ∧
        ∀ read, read <+: rest → read ≠ [] →
          IsSafe (sum + amount first + (read.map amount).sum) := by
  constructor
  · intro safe
    constructor
    · have one := safe [first] (by simp) (by simp)
      simpa using one
    · intro read part _
      have longer := safe (first :: read) ((List.cons_prefix_cons).mpr ⟨rfl, part⟩)
        (List.cons_ne_nil _ _)
      rw [List.map_cons, List.sum_cons, ← Int.add_assoc] at longer
      exact longer
  · rintro ⟨here, later⟩ read part some
    cases read with
    | nil => exact absurd rfl some
    | cons head tail =>
        obtain ⟨rfl, partial'⟩ := List.cons_prefix_cons.mp part
        rw [List.map_cons, List.sum_cons, ← Int.add_assoc]
        by_cases none : tail = []
        · subst none
          simpa using here
        · exact later tail partial' none

/-- A sum over lines that adds an amount of each line succeeds where all that it
has added on its way is safe. -/
theorem runningSum_eq_ok_iff {currency : CurrencyCode} {amount : OrderLine → Int}
    {sumOf : Money → List OrderLine → Except KernelError Money} {lines : List OrderLine}
    (done : ∀ sum, sumOf sum [] = .ok sum)
    (added : ∀ line ∈ lines, ∀ (sum : Int) (rest : List OrderLine),
      sumOf ⟨sum, currency⟩ (line :: rest) =
        Money.of (sum + amount line) currency.text >>= fun next => sumOf next rest)
    (sum : Int) (total : Money) :
    sumOf ⟨sum, currency⟩ lines = .ok total ↔
      (∀ read, read <+: lines → read ≠ [] → IsSafe (sum + (read.map amount).sum)) ∧
        total = ⟨sum + (lines.map amount).sum, currency⟩ := by
  induction lines generalizing sum with
  | nil => simp [done, eq_comm]
  | cons line rest inductionHypothesis =>
      have others := inductionHypothesis fun other otherMem =>
        added other (List.mem_cons_of_mem line otherMem)
      have grouped := @prefixes_cons line rest amount sum
      rw [added line List.mem_cons_self]
      simp only [bind_eq_ok_iff, of_eq_ok_iff]
      constructor
      · rintro ⟨next, ⟨safe, rfl⟩, summed⟩
        obtain ⟨later, rfl⟩ := (others _).mp summed
        constructor
        · exact grouped.mpr ⟨safe, later⟩
        · simp [Int.add_assoc]
      · rintro ⟨safe, rfl⟩
        obtain ⟨first, later⟩ := grouped.mp safe
        have summed := (others (sum + amount line)).mpr
          ⟨later, by rw [List.map_cons, List.sum_cons, Int.add_assoc]⟩
        exact ⟨_, ⟨first, rfl⟩, summed⟩

theorem sumAmounts_eq_ok_iff {currency : CurrencyCode} {lines : List OrderLine}
    (addable : ∀ line ∈ lines, Addable currency line) (sum : Int) (total : Money) :
    sumAmounts ⟨sum, currency⟩ lines = .ok total ↔
      (∀ read, read <+: lines → read ≠ [] → IsSafe (sum + lineTotals read)) ∧
        total = ⟨sum + lineTotals lines, currency⟩ := by
  apply runningSum_eq_ok_iff (fun _ => rfl)
  intro line lineMem sum rest
  have here := addable line lineMem
  have multiplied : line.unitPrice.multiply line.quantity =
      .ok ⟨line.lineTotal, currency⟩ := by
    rw [Money.multiply, here.price]
    exact of_eq_ok_iff.mpr ⟨here.product, rfl⟩
  rw [sumAmounts, multiplied]
  change (Money.add ⟨sum, currency⟩ ⟨line.lineTotal, currency⟩ >>= fun next =>
    sumAmounts next rest) = _
  simp only [Money.add, if_true]

theorem sumDiscounts_eq_ok_iff {currency : CurrencyCode} {lines : List OrderLine}
    (addable : ∀ line ∈ lines, Addable currency line) (sum : Int) (total : Money) :
    sumDiscounts ⟨sum, currency⟩ lines = .ok total ↔
      (∀ read, read <+: lines → read ≠ [] → IsSafe (sum + lineDiscounts read)) ∧
        total = ⟨sum + lineDiscounts lines, currency⟩ := by
  apply runningSum_eq_ok_iff (fun _ => rfl)
  intro line lineMem sum rest
  simp only [sumDiscounts, Money.add, (addable line lineMem).discount, if_true]

/-! ## The totals -/

theorem safelySummed_iff (lines : List OrderLine) :
    SafelySummed lines ↔
      (∀ read, read <+: lines → read ≠ [] → IsSafe (0 + lineTotals read)) ∧
        ∀ read, read <+: lines → read ≠ [] → IsSafe (0 + lineDiscounts read) := by
  simp only [Int.zero_add]
  constructor
  · intro safe
    exact ⟨fun read part _ => (safe read part).1, fun read part _ => (safe read part).2⟩
  · rintro ⟨totals, discounts⟩ read part
    by_cases none : read = []
    · subst none
      exact ⟨Nat.zero_le _, Nat.zero_le _⟩
    · exact ⟨totals read part none, discounts read part none⟩

/-- The totals of addable lines are derived exactly when both sums stay safe and
their difference is a safe amount that is not negative. -/
theorem computeOrderTotals_eq_ok_iff {order : OrderNumber} {currency : String}
    {code : CurrencyCode} {lines : List OrderLine}
    (validated : validateCurrency currency = .ok code)
    (addable : ∀ line ∈ lines, Addable code line)
    {totals : OrderTotals} :
    computeOrderTotals order currency lines = .ok totals ↔
      SafelySummed lines ∧ IsSafe (lineTotals lines - lineDiscounts lines) ∧
        0 ≤ lineTotals lines - lineDiscounts lines ∧
          totals =
            ⟨⟨lineTotals lines, code⟩, ⟨lineDiscounts lines, code⟩,
              ⟨lineTotals lines - lineDiscounts lines, code⟩⟩ := by
  have isZero : Money.zero currency = .ok ⟨0, code⟩ :=
    Money.zero_eq_ok_iff.mpr ⟨code, validated, rfl⟩
  rw [safelySummed_iff]
  simp only [computeOrderTotals, isZero, bind_eq_ok_iff, mapError_eq_ok_iff,
    ite_error_eq_ok_iff, Except.ok.injEq, exists_eq_left',
    sumAmounts_eq_ok_iff addable, sumDiscounts_eq_ok_iff addable]
  constructor
  · rintro ⟨initial, ⟨safeTotals, rfl⟩, lineDiscount, ⟨safeDiscounts, rfl⟩,
      discount, added, total, subtracted, notNegative, rfl⟩
    simp only [Money.add, if_true, Int.add_zero, of_eq_ok_iff] at added
    obtain ⟨_, rfl⟩ := added
    simp only [Money.subtract, if_true, of_eq_ok_iff] at subtracted
    obtain ⟨safe, rfl⟩ := subtracted
    simp only [Int.zero_add] at safe notNegative
    refine ⟨⟨safeTotals, safeDiscounts⟩, safe, ?_, ?_⟩
    · simpa [Money.isNegative] using notNegative
    · simp only [Int.zero_add]
  · rintro ⟨⟨safeTotals, safeDiscounts⟩, safe, notNegative, rfl⟩
    have whole : IsSafe (lineDiscounts lines) := by
      by_cases none : lines = []
      · subst none
        exact Nat.zero_le _
      · have last := safeDiscounts lines List.prefix_rfl none
        rwa [Int.zero_add] at last
    refine ⟨_, ⟨safeTotals, rfl⟩, _, ⟨safeDiscounts, rfl⟩,
      ⟨lineDiscounts lines, code⟩, ?_,
      ⟨lineTotals lines - lineDiscounts lines, code⟩, ?_, ?_, ?_⟩
    · simp only [Money.add, if_true, Int.zero_add, Int.add_zero]
      exact of_eq_ok_iff.mpr ⟨whole, rfl⟩
    · simp only [Money.subtract, if_true, Int.zero_add]
      exact of_eq_ok_iff.mpr ⟨safe, rfl⟩
    · simpa [Money.isNegative] using notNegative
    · simp only [Int.zero_add]

theorem products_of_sumAmounts {sum total : Money} {lines : List OrderLine}
    (summed : sumAmounts sum lines = .ok total) :
    ∀ line ∈ lines, IsSafe line.lineTotal := by
  induction lines generalizing sum with
  | nil =>
      intro line absent
      cases absent
  | cons head rest inductionHypothesis =>
      simp only [sumAmounts, bind_eq_ok_iff] at summed
      obtain ⟨lineTotal, multiplied, next, _, remaining⟩ := summed
      intro line member
      rcases List.mem_cons.mp member with rfl | later
      · exact (of_eq_ok_iff.mp multiplied).1
      · exact inductionHypothesis remaining line later

/-- Lines that have totals are addable. -/
theorem addable_of_computeOrderTotals {order : OrderNumber} {currency : String}
    {lines : List OrderLine} {totals : OrderTotals}
    (computed : computeOrderTotals order currency lines = .ok totals) :
    ∃ code, validateCurrency currency = .ok code ∧
      ∀ line ∈ lines, Addable code line := by
  simp only [computeOrderTotals, bind_eq_ok_iff, mapError_eq_ok_iff] at computed
  obtain ⟨zero, isZero, _, summed, _, discounted, _⟩ := computed
  obtain ⟨code, validated, rfl⟩ := Money.zero_eq_ok_iff.mp isZero
  refine ⟨code, validated, fun line lineMem => ?_⟩
  exact ⟨Order.unitPrices_of_sumAmounts summed line lineMem,
    Order.lineDiscounts_of_sumDiscounts discounted line lineMem,
    products_of_sumAmounts summed line lineMem⟩

/-- The same lines in another order have the same totals, exactly when their
sums stay safe in that order too. -/
theorem computeOrderTotals_perm {order : OrderNumber} {currency : String}
    {lines others : List OrderLine} {totals : OrderTotals}
    (perm : others.Perm lines)
    (computed : computeOrderTotals order currency lines = .ok totals)
    (result : OrderTotals) :
    computeOrderTotals order currency others = .ok result ↔
      SafelySummed others ∧ result = totals := by
  obtain ⟨code, validated, addable⟩ := addable_of_computeOrderTotals computed
  have addableOthers : ∀ line ∈ others, Addable code line :=
    fun line lineMem => addable line (perm.mem_iff.mp lineMem)
  have sameTotal : lineTotals others = lineTotals lines := (perm.map _).sum_eq
  have sameDiscount : lineDiscounts others = lineDiscounts lines :=
    (perm.map _).sum_eq
  obtain ⟨_, safe, notNegative, rfl⟩ :=
    (computeOrderTotals_eq_ok_iff validated addable).mp computed
  rw [computeOrderTotals_eq_ok_iff validated addableOthers, sameTotal, sameDiscount]
  constructor
  · rintro ⟨summed, _, _, rfl⟩
    exact ⟨summed, rfl⟩
  · rintro ⟨summed, rfl⟩
    exact ⟨summed, safe, notNegative, rfl⟩

/-- Where no line adds or takes a negative amount, every order of the lines is
summed as safely as one is. -/
theorem safelySummed_of_nonneg {lines others : List OrderLine}
    (perm : others.Perm lines) (summed : SafelySummed lines)
    (nonneg : ∀ line ∈ lines,
      0 ≤ line.unitPrice.amount ∧ 0 ≤ line.lineDiscount.amount) :
    SafelySummed others := by
  have bounded : ∀ amount : OrderLine → Int, (∀ line ∈ lines, 0 ≤ amount line) →
      IsSafe (lines.map amount).sum → ∀ read, read <+: others →
        IsSafe (read.map amount).sum := by
    intro amount positive safe read part
    obtain ⟨rest, rfl⟩ := part
    have whole : (read.map amount).sum + (rest.map amount).sum =
        (lines.map amount).sum := by
      rw [← (perm.map amount).sum_eq, List.map_append, List.sum_append]
    have sumNonneg : ∀ some : List OrderLine, some ⊆ read ++ rest →
        0 ≤ (some.map amount).sum := by
      intro some among
      apply List.sum_nonneg
      intro value valueMem
      obtain ⟨line, lineMem, rfl⟩ := List.mem_map.mp valueMem
      exact positive line (perm.mem_iff.mp (among lineMem))
    have before := sumNonneg read (List.subset_append_left read rest)
    have after := sumNonneg rest (List.subset_append_right read rest)
    unfold IsSafe at safe ⊢
    omega
  have all := summed lines List.prefix_rfl
  intro read part
  constructor
  · apply bounded OrderLine.lineTotal _ all.1 read part
    exact fun line lineMem =>
      Int.mul_nonneg (nonneg line lineMem).1 (Int.natCast_nonneg _)
  · exact bounded _ (fun line lineMem => (nonneg line lineMem).2) all.2 read part

end OrderToCash.Orders
