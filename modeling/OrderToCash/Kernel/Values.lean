import Mathlib.Algebra.Order.Field.Rat
import OrderToCash.Text.UpperCase

/-!
# Value objects of the shared kernel

The identifiers, quantities and amounts every service builds its aggregates
from.  An order's UUID and its `ORD-######` reference are both unique to it and
travel together, so one key stands for both.
-/

namespace OrderToCash.Kernel

open OrderToCash.Text

/-- A business reference `ORD-######`, by its sequence number. -/
structure OrderNumber where
  sequence : Nat
deriving DecidableEq, Repr

/-- A generated identifier of a row. -/
structure UniqueId where
  value : Nat
deriving DecidableEq, Repr

/-- The text of an identifier.  A caller may write a UUID with capitals, which are
given here by their places. -/
structure UniqueIdText where
  id : UniqueId
  capitals : List Nat
deriving DecidableEq, Repr

/-- The text an identifier is generated and stored with. -/
def UniqueId.text (id : UniqueId) : UniqueIdText := ⟨id, []⟩

/-- `UniqueId.from` reads a text in lower case. -/
def UniqueId.ofText (text : UniqueIdText) : UniqueId := text.id

/-- A strictly positive integer count of units. -/
structure Quantity where
  value : Nat
  positive : 0 < value
deriving DecidableEq

namespace Quantity

/-- Construction refuses zero. -/
def of (value : Nat) : Option Quantity :=
  if positive : 0 < value then some ⟨value, positive⟩ else none

/-- A numeral other than zero is a count of units. -/
instance instOfNat (units : Nat) : OfNat Quantity (units + 1) :=
  ⟨⟨units + 1, units.succ_pos⟩⟩

instance : Repr Quantity where
  reprPrec quantity precedence := reprPrec quantity.value precedence

end Quantity

/-! ## Currency codes -/

/-- Three letters, `A` to `Z`. -/
def isCurrencyCode (text : String) : Bool :=
  match text.toList with
  | [first, second, third] => first.isUpper && second.isUpper && third.isUpper
  | _ => false

/-- An ISO 4217 code by its shape. -/
@[ext]
structure CurrencyCode where
  text : String
  valid : isCurrencyCode text = true
deriving DecidableEq

instance : Repr CurrencyCode where
  reprPrec code precedence := reprPrec code.text precedence

/-- The euro. -/
def CurrencyCode.eur : CurrencyCode := ⟨"EUR", by decide⟩

/-! ## Money -/

/-- An integer count of minor units with its currency code. -/
structure Money where
  amount : Int
  currency : CurrencyCode
deriving DecidableEq, Repr

/-- The errors the kernel's own constructors and arithmetic raise. -/
inductive KernelError
  | invalidMoneyAmount (amount : Int)
  | invalidCurrencyCode (currency : String)
  | currencyMismatch (left right : CurrencyCode)
deriving DecidableEq, Repr

/-- The upper case of a text, where that is a code. -/
def validateCurrency (currency : String) : Except KernelError CurrencyCode :=
  let normalized := String.ofList (toUpperCase currency.toList)
  if valid : isCurrencyCode normalized = true then
    .ok ⟨normalized, valid⟩
  else
    .error (.invalidCurrencyCode currency)

theorem toUpperCase_of_isCurrencyCode {text : String}
    (valid : isCurrencyCode text = true) : toUpperCase text.toList = text.toList := by
  unfold isCurrencyCode at valid
  split at valid
  · rename_i first second third letters
    rw [letters]
    refine toUpperCase_of_isUpper fun char charMem => ?_
    simp only [Bool.and_eq_true] at valid
    simp only [List.mem_cons, List.not_mem_nil, or_false] at charMem
    rcases charMem with rfl | rfl | rfl
    · exact valid.1.1
    · exact valid.1.2
    · exact valid.2
  · cases valid

/-- A code is its own upper case. -/
@[simp]
theorem validateCurrency_text (code : CurrencyCode) :
    validateCurrency code.text = .ok code := by
  have same := toUpperCase_of_isCurrencyCode code.valid
  unfold validateCurrency
  simp only [same, String.ofList_toList, code.valid, dite_true]

namespace Money

/-- `Number.MAX_SAFE_INTEGER`. -/
def maxSafeInteger : Nat := 9007199254740991

/-- Construction refuses an amount that is not a safe integer, and a currency whose
upper case is no code. -/
def of (amount : Int) (currency : String) : Except KernelError Money :=
  if amount.natAbs ≤ maxSafeInteger then
    (validateCurrency currency).map fun code => ⟨amount, code⟩
  else
    .error (.invalidMoneyAmount amount)

def zero (currency : String) : Except KernelError Money := Money.of 0 currency

def add (left right : Money) : Except KernelError Money :=
  if left.currency = right.currency then
    Money.of (left.amount + right.amount) left.currency.text
  else
    .error (.currencyMismatch left.currency right.currency)

def subtract (left right : Money) : Except KernelError Money :=
  if left.currency = right.currency then
    Money.of (left.amount - right.amount) left.currency.text
  else
    .error (.currencyMismatch left.currency right.currency)

def multiply (money : Money) (quantity : Quantity) : Except KernelError Money :=
  Money.of (money.amount * quantity.value) money.currency.text

def isNegative (money : Money) : Bool := money.amount < 0

/-- What is constructed has the amount it was given and the code of its
currency. -/
theorem of_eq_ok {amount : Int} {currency : String} {money : Money}
    (accepted : Money.of amount currency = .ok money) :
    money.amount = amount ∧ validateCurrency currency = .ok money.currency := by
  unfold Money.of at accepted
  split at accepted
  · cases validated : validateCurrency currency with
    | error error =>
        rw [validated] at accepted
        cases accepted
    | ok code =>
        rw [validated] at accepted
        cases accepted
        exact ⟨rfl, rfl⟩
  · cases accepted

/-- In a code, what is constructed is the amount in that code. -/
theorem of_text_eq_ok {amount : Int} {code : CurrencyCode} {money : Money}
    (accepted : Money.of amount code.text = .ok money) :
    money = ⟨amount, code⟩ := by
  rcases of_eq_ok accepted with ⟨rfl, validated⟩
  rw [validateCurrency_text] at validated
  cases validated
  rfl

/-- Nothing is constructed of a code but an amount that is too great. -/
theorem of_text (amount : Int) (code : CurrencyCode) :
    Money.of amount code.text =
      if amount.natAbs ≤ maxSafeInteger then .ok ⟨amount, code⟩
      else .error (.invalidMoneyAmount amount) := by
  rw [Money.of, validateCurrency_text]
  rfl

theorem zero_eq_ok_iff {currency : String} {money : Money} :
    Money.zero currency = .ok money ↔
      ∃ code, validateCurrency currency = .ok code ∧ money = ⟨0, code⟩ := by
  unfold Money.zero
  constructor
  · intro accepted
    rcases of_eq_ok accepted with ⟨amount, validated⟩
    exact ⟨money.currency, validated, by rw [← amount]⟩
  · rintro ⟨code, validated, rfl⟩
    rw [Money.of, validated]
    rfl

theorem add_eq_ok {left right sum : Money}
    (accepted : left.add right = .ok sum) :
    right.currency = left.currency ∧
      sum = ⟨left.amount + right.amount, left.currency⟩ := by
  unfold add at accepted
  split at accepted
  · rename_i sameCurrency
    exact ⟨sameCurrency.symm, of_text_eq_ok accepted⟩
  · cases accepted

theorem subtract_eq_ok {left right difference : Money}
    (accepted : left.subtract right = .ok difference) :
    right.currency = left.currency ∧
      difference = ⟨left.amount - right.amount, left.currency⟩ := by
  unfold subtract at accepted
  split at accepted
  · rename_i sameCurrency
    exact ⟨sameCurrency.symm, of_text_eq_ok accepted⟩
  · cases accepted

end Money

end OrderToCash.Kernel
