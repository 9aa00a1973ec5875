import OrderToCash.Web.Money

/-!
# What a page says of a typed amount

The page checks the text of an amount box with a pattern of its own and answers
with the sentence it shows, or with nothing when the amount can be read.
-/

namespace OrderToCash.Web

open OrderToCash.Kernel
open OrderToCash.Kernel.Money (maxSafeInteger)
open OrderToCash.Text
open RegularExpression

/-- `^\d+(?:\.\d{1,exponent})?$`, and `^\d+$` without a fraction. -/
def amountPattern (exponent : Nat) : RegularExpression Char :=
  if 0 < exponent then oneOrMore digit * optional (char '.' * oneTo digit exponent)
  else oneOrMore digit

/-- The form a currency asks for. -/
def amountShape (exponent : Nat) (currency : List Char) : List Char :=
  if exponent = 0 then
    "a whole number (".toList ++ currency ++ " has no decimals)".toList
  else
    "digits with up to ".toList ++ Nat.toDigits 10 exponent ++ " decimal".toList ++
      (if exponent = 1 then [] else ['s']) ++ ", like 19.".toList ++
      List.replicate exponent '9'

/-- Why a text is not an acceptable amount, if it is none. -/
def amountProblem (text currency label : List Char) : Option (List Char) :=
  let trimmed := trim text
  if trimmed = [] then
    some (label ++ " is required: enter an amount in ".toList ++ currency ++ ['.'])
  else
    let exponent := currencyExponent currency
    if (amountPattern exponent).rmatch trimmed then
      -- Well formed, and too large to be read.
      if decimalStringToMinorUnits trimmed currency = none then
        some (label ++ " is too large: \"".toList ++ text ++ "\" ".toList ++ currency ++
          " is above the largest amount this page can send exactly.".toList)
      else none
    else
      some (label ++ " must be ".toList ++ amountShape exponent currency ++
        ", but \"".toList ++ text ++ "\" is not.".toList)

/-- A trimmed text is read as the text is. -/
theorem decimalStringToMinorUnits_trim (text currency : List Char) :
    decimalStringToMinorUnits (trim text) currency =
      decimalStringToMinorUnits text currency := by
  unfold decimalStringToMinorUnits
  rw [trim_trim]

/-- The page has nothing to say of a text exactly when it is read. -/
theorem amountProblem_eq_none_iff (text currency label : List Char) :
    amountProblem text currency label = none ↔
      (decimalStringToMinorUnits text currency).isSome := by
  unfold amountProblem
  dsimp only
  rw [decimalStringToMinorUnits_trim]
  split
  · rename_i blank
    simp [decimalStringToMinorUnits, blank]
  · split
    · cases decimalStringToMinorUnits text currency with
      | none => simp
      | some units => simp
    · rename_i unmatched
      have unread : decimalStringToMinorUnits text currency = none := by
        have samePattern : decimalPattern (currencyExponent currency) =
            amountPattern (currencyExponent currency) := rfl
        simp [decimalStringToMinorUnits, samePattern, unmatched]
      simp [unread]

/-- Decimal input is exact: a text is read when, trimmed, it is a decimal of the
currency, as the amount it stands for and only when that is a safe integer; what
the page writes is read back, and the page refuses just what is not read. -/
theorem decimal_input_exact (currency : List Char) :
    (∀ value (units : Nat), decimalStringToMinorUnits value currency = some units ↔
      ∃ amount, DecimalForm (currencyExponent currency) (trim value) amount ∧
        (units : ℚ) = amount * 10 ^ currencyExponent currency ∧
        units ≤ maxSafeInteger) ∧
    (∀ units : Fin (maxSafeInteger + 1),
      decimalStringToMinorUnits (minorUnitsToDecimalString units currency) currency =
        some units.val) ∧
    ∀ value label, amountProblem value currency label = none ↔
      (decimalStringToMinorUnits value currency).isSome := by
  constructor
  · intro value units
    exact decimalStringToMinorUnits_eq_some_iff
  · constructor
    · intro units
      exact decimalStringToMinorUnits_minorUnitsToDecimalString
        (Nat.le_of_lt_succ units.isLt) currency
    · intro value label
      exact amountProblem_eq_none_iff value currency label

example : decimalStringToMinorUnits " 249.9 ".toList "EUR".toList = some 24990 := by
  decide +kernel

example : decimalStringToMinorUnits "1.005".toList "EUR".toList = none := by
  decide +kernel

end OrderToCash.Web
