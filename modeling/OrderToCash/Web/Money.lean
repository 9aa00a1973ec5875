import Mathlib.Algebra.Order.Field.Rat
import Mathlib.Tactic.Positivity
import OrderToCash.Kernel.MoneyText
import OrderToCash.Kernel.Values

/-!
# Amounts typed by a user

A box for an amount holds decimal text.  It is read digit by digit into minor
units, and an amount that is shown in a box is written so that it is read back.
-/

namespace OrderToCash.Web

open OrderToCash.Kernel
open OrderToCash.Kernel.Money (maxSafeInteger)
open OrderToCash.Text
open RegularExpression

/-- `^(\d+)(?:\.(\d{1,exponent}))?$`, and `^(\d+)$` without a fraction. -/
def decimalPattern (exponent : Nat) : RegularExpression Char :=
  if 0 < exponent then oneOrMore digit * optional (char '.' * oneTo digit exponent)
  else oneOrMore digit

/-- The two groups of a match: the digits before the point and those behind it. -/
def decimalGroups (text : List Char) : List Char × List Char :=
  (text.takeWhile Char.isDigit, (text.dropWhile Char.isDigit).drop 1)

/-- `Number.isSafeInteger` of a read natural. -/
def isSafeInteger (number : Option Nat) : Bool :=
  number.any (· ≤ maxSafeInteger)

def decimalStringToMinorUnits (value currency : List Char) : Option Nat :=
  let trimmed := trim value
  if trimmed = [] then none
  else
    let exponent := currencyExponent currency
    if (decimalPattern exponent).rmatch trimmed then
      let (wholePart, fractionPart) := decimalGroups trimmed
      let minorUnits :=
        nearestDouble (valueOf (wholePart ++ padEnd exponent '0' fractionPart))
      if isSafeInteger minorUnits then minorUnits else none
    else none

def minorUnitsToDecimalString (minorUnits : Int) (currency : List Char) : List Char :=
  let exponent := currencyExponent currency
  let sign := signOf minorUnits
  let digits := digitsOf minorUnits
  if exponent = 0 then sign ++ digits
  else
    let padded := padStart (exponent + 1) '0' digits
    sign ++ padded.take (padded.length - exponent) ++
      '.' :: padded.drop (padded.length - exponent)

/-! ## Written amounts -/

theorem minorUnitsToDecimalString_eq (minorUnits : Int) (currency : List Char) :
    minorUnitsToDecimalString minorUnits currency =
      plainDecimal (currencyExponent currency) minorUnits := by
  unfold minorUnitsToDecimalString plainDecimal fractionText
  dsimp only
  split
  · rename_i none
    rw [none]
    simp [digitsOf]
  · rename_i some
    rw [paddedDigits_eq]
    simp [Nat.pos_of_ne_zero some]

/-! ## Typed amounts -/

/-- A decimal numeral and the amount it stands for: digits, and a point with at
most as many digits as the exponent behind it. -/
inductive DecimalForm (exponent : Nat) : List Char → ℚ → Prop
  | whole {digits : List Char} (nonempty : digits ≠ [])
      (allDigits : ∀ char ∈ digits, char.isDigit) :
      DecimalForm exponent digits (valueOf digits)
  | fraction {digits decimals : List Char} (nonempty : digits ≠ [])
      (allDigits : ∀ char ∈ digits, char.isDigit) (some : decimals ≠ [])
      (few : decimals.length ≤ exponent)
      (allDecimals : ∀ char ∈ decimals, char.isDigit) :
      DecimalForm exponent (digits ++ '.' :: decimals)
        (valueOf digits + valueOf decimals / 10 ^ decimals.length)

theorem takeWhile_append_point {digits : List Char}
    (allDigits : ∀ char ∈ digits, char.isDigit) (decimals : List Char) :
    (digits ++ '.' :: decimals).takeWhile Char.isDigit = digits ∧
      (digits ++ '.' :: decimals).dropWhile Char.isDigit = '.' :: decimals := by
  rw [List.takeWhile_append_of_pos allDigits, List.dropWhile_append_of_pos allDigits]
  simp

namespace DecimalForm

variable {exponent : Nat} {text : List Char} {amount : ℚ}

theorem ne_nil (form : DecimalForm exponent text amount) : text ≠ [] := by
  cases form with
  | whole nonempty => exact nonempty
  | fraction nonempty => exact List.append_ne_nil_of_left_ne_nil nonempty _

/-- The forms are what the pattern matches. -/
theorem rmatch (form : DecimalForm exponent text amount) :
    (decimalPattern exponent).rmatch text := by
  unfold decimalPattern
  cases form with
  | whole nonempty allDigits =>
      have digitsMatch := (reads_digit.oneOrMore_rmatch_iff text).mpr ⟨nonempty, allDigits⟩
      split
      · rw [mul_rmatch_iff]
        exact ⟨text, [], (List.append_nil _).symm, digitsMatch,
          (optional_rmatch_iff _ _).mpr (Or.inl rfl)⟩
      · exact digitsMatch
  | @fraction digits decimals nonempty allDigits some few allDecimals =>
      have positive : 0 < exponent := (List.length_pos_of_ne_nil some).trans_le few
      have digitsMatch := (reads_digit.oneOrMore_rmatch_iff digits).mpr
        ⟨nonempty, allDigits⟩
      have decimalsMatch := (reads_digit.oneTo_rmatch_iff exponent decimals).mpr
        ⟨some, few, allDecimals⟩
      rw [if_pos positive, mul_rmatch_iff]
      refine ⟨digits, '.' :: decimals, rfl, digitsMatch,
        (optional_rmatch_iff _ _).mpr (Or.inr ?_)⟩
      rw [mul_rmatch_iff]
      exact ⟨['.'], decimals, rfl, (char_rmatch_iff _ _).mpr rfl, decimalsMatch⟩

theorem exists_of_rmatch (matched : (decimalPattern exponent).rmatch text) :
    ∃ amount, DecimalForm exponent text amount := by
  unfold decimalPattern at matched
  split at matched
  · rw [mul_rmatch_iff] at matched
    rcases matched with ⟨digits, rest, rfl, digitsMatch, restMatch⟩
    rcases (reads_digit.oneOrMore_rmatch_iff digits).mp digitsMatch with
      ⟨nonempty, allDigits⟩
    rcases (optional_rmatch_iff _ _).mp restMatch with rfl | restMatch
    · rw [List.append_nil]
      exact ⟨_, .whole nonempty allDigits⟩
    · rw [mul_rmatch_iff] at restMatch
      rcases restMatch with ⟨point, decimals, rfl, pointMatch, decimalsMatch⟩
      rw [char_rmatch_iff] at pointMatch
      rcases (reads_digit.oneTo_rmatch_iff exponent decimals).mp decimalsMatch with
        ⟨some, few, allDecimals⟩
      rw [pointMatch]
      exact ⟨_, .fraction nonempty allDigits some few allDecimals⟩
  · rcases (reads_digit.oneOrMore_rmatch_iff text).mp matched with
      ⟨nonempty, allDigits⟩
    exact ⟨_, .whole nonempty allDigits⟩

/-- The groups of a match, the second padded, are the amount in minor units. -/
theorem valueOf_groups (form : DecimalForm exponent text amount) :
    (valueOf ((decimalGroups text).1 ++ padEnd exponent '0' (decimalGroups text).2) : ℚ) =
      amount * 10 ^ exponent := by
  have length (fraction : List Char) (few : fraction.length ≤ exponent) :
      (padEnd exponent '0' fraction).length = exponent := by
    simp [padEnd, Nat.add_sub_cancel' few]
  cases form with
  | whole nonempty allDigits =>
      have groups : decimalGroups text = (text, []) := by
        rw [decimalGroups, List.takeWhile_eq_self_iff.mpr allDigits,
          List.dropWhile_eq_nil_iff.mpr allDigits]
        rfl
      rw [groups, valueOf_append, valueOf_padEnd, length [] (Nat.zero_le _)]
      simp [valueOf]
  | @fraction digits decimals nonempty allDigits some few allDecimals =>
      have groups : decimalGroups (digits ++ '.' :: decimals) = (digits, decimals) := by
        rcases takeWhile_append_point allDigits decimals with ⟨whole, rest⟩
        rw [decimalGroups, whole, rest]
        rfl
      have split : (10 : ℚ) ^ exponent =
          10 ^ decimals.length * 10 ^ (exponent - decimals.length) := by
        rw [← pow_add, Nat.add_sub_cancel' few]
      have nonzero : (10 : ℚ) ^ decimals.length ≠ 0 := by positivity
      have scaled : (valueOf decimals : ℚ) / 10 ^ decimals.length * 10 ^ exponent =
          valueOf decimals * 10 ^ (exponent - decimals.length) := by
        rw [split, ← mul_assoc, div_mul_cancel₀ _ nonzero]
      rw [groups, valueOf_append, valueOf_padEnd, length decimals few, add_mul, scaled]
      push_cast
      rfl

end DecimalForm

/-- What is read of a natural: itself, when it is a safe integer. -/
theorem safe_nearestDouble (number : Nat) :
    (if isSafeInteger (nearestDouble number) then nearestDouble number else none) =
      if number ≤ maxSafeInteger then some number else none := by
  have limit : maxSafeInteger + 1 = 2 ^ 53 := rfl
  by_cases small : number < 2 ^ 53
  · have safe : number ≤ maxSafeInteger := by omega
    rw [nearestDouble_of_lt small, if_pos safe, isSafeInteger, Option.any_some,
      decide_eq_true safe, if_pos rfl]
  · have large : 2 ^ 53 ≤ number := Nat.le_of_not_lt small
    have unsafeNumber : ¬ number ≤ maxSafeInteger := by omega
    have notSafe : isSafeInteger (nearestDouble number) = false := by
      cases read : nearestDouble number with
      | none => rfl
      | some double =>
          have above := le_of_nearestDouble_eq_some large read
          simp only [isSafeInteger, Option.any_some, decide_eq_false_iff_not]
          omega
    rw [notSafe, if_neg unsafeNumber]
    rfl

/-- A typed decimal is read exactly, or not at all when it is too large. -/
theorem decimalStringToMinorUnits_of_form {value currency : List Char} {amount : ℚ}
    (form : DecimalForm (currencyExponent currency) (trim value) amount) :
    ∃ units : Nat, (units : ℚ) = amount * 10 ^ currencyExponent currency ∧
      decimalStringToMinorUnits value currency =
        if units ≤ maxSafeInteger then some units else none := by
  refine ⟨_, form.valueOf_groups, ?_⟩
  unfold decimalStringToMinorUnits
  rw [if_neg form.ne_nil]
  simp only [form.rmatch, if_true]
  exact safe_nearestDouble _

theorem decimalStringToMinorUnits_eq_some_iff {value currency : List Char}
    {units : Nat} :
    decimalStringToMinorUnits value currency = some units ↔
      ∃ amount, DecimalForm (currencyExponent currency) (trim value) amount ∧
        (units : ℚ) = amount * 10 ^ currencyExponent currency ∧
        units ≤ maxSafeInteger := by
  constructor
  · intro read
    have matched : (decimalPattern (currencyExponent currency)).rmatch (trim value) := by
      by_contra unmatched
      simp [decimalStringToMinorUnits, unmatched] at read
    rcases DecimalForm.exists_of_rmatch matched with ⟨amount, form⟩
    rcases decimalStringToMinorUnits_of_form form with ⟨exact, exactEq, result⟩
    rw [result, Option.ite_none_right_eq_some] at read
    rcases read with ⟨safe, same⟩
    cases same
    exact ⟨amount, form, exactEq, safe⟩
  · rintro ⟨amount, form, unitsEq, safe⟩
    rcases decimalStringToMinorUnits_of_form form with ⟨exact, exactEq, result⟩
    have same : exact = units := by exact_mod_cast exactEq.trans unitsEq.symm
    rw [result, same, if_pos safe]

/-! ## Amounts written and read back -/

/-- A decimal has no white space to trim. -/
theorem DecimalForm.trim_eq {exponent : Nat} {text : List Char} {amount : ℚ}
    (form : DecimalForm exponent text amount) : trim text = text := by
  apply trim_eq_self
  intro char written
  cases form with
  | whole _ allDigits => exact not_isSpace_of_isDigit (allDigits char written)
  | fraction _ allDigits _ _ allDecimals =>
      rcases List.mem_append.mp written with written | written
      · exact not_isSpace_of_isDigit (allDigits char written)
      · rcases List.mem_cons.mp written with rfl | written
        · decide
        · exact not_isSpace_of_isDigit (allDecimals char written)

/-- A natural in minor units is written as the decimal it is. -/
theorem plainDecimal_form (exponent units : Nat) :
    ∃ amount, DecimalForm exponent (plainDecimal exponent units) amount ∧
      (units : ℚ) = amount * 10 ^ exponent := by
  have whole : ∀ char ∈ Nat.toDigits 10 (units / 10 ^ exponent), char.isDigit :=
    fun _ => isDigit_of_mem_toDigits
  have written : plainDecimal exponent units =
      Nat.toDigits 10 (units / 10 ^ exponent) ++ fractionText exponent units := by
    simp [plainDecimal, signOf]
  rw [written]
  unfold fractionText
  split
  · rename_i positive
    have some : lastDigits exponent units ≠ [] := by
      apply List.ne_nil_of_length_pos
      rw [length_lastDigits]
      exact positive
    refine ⟨_, .fraction Nat.toDigits_ne_nil whole some (length_lastDigits _ _).le
      fun _ => isDigit_of_mem_lastDigits, ?_⟩
    have nonzero : (10 : ℚ) ^ exponent ≠ 0 := by positivity
    rw [valueOf_toDigits, valueOf_lastDigits, length_lastDigits, add_mul,
      div_mul_cancel₀ _ nonzero]
    exact_mod_cast (Nat.div_add_mod' units (10 ^ exponent)).symm
  · rename_i none
    have zero : exponent = 0 := Nat.eq_zero_of_not_pos none
    subst zero
    rw [List.append_nil]
    refine ⟨_, .whole Nat.toDigits_ne_nil whole, ?_⟩
    rw [valueOf_toDigits]
    simp

/-- Reading is a left inverse of writing. -/
theorem decimalStringToMinorUnits_minorUnitsToDecimalString {units : Nat}
    (safe : units ≤ maxSafeInteger) (currency : List Char) :
    decimalStringToMinorUnits (minorUnitsToDecimalString units currency) currency =
      some units := by
  rw [minorUnitsToDecimalString_eq, decimalStringToMinorUnits_eq_some_iff]
  rcases plainDecimal_form (currencyExponent currency) units with
    ⟨amount, form, unitsEq⟩
  exact ⟨amount, form.trim_eq.symm ▸ form, unitsEq, safe⟩

/-- The kernel's text of an amount is faithful: without currency and separators
it is the plain decimal, its whole part stands in threes from the right, no two
amounts share it, and the web's decimal is the same and reads back. -/
theorem formatMoney_faithful (currency : List Char) :
    (∀ minorUnits, withoutSeparators (formatMoney minorUnits currency) currency =
      plainDecimal (currencyExponent currency) minorUnits) ∧
    (∀ minorUnits : Int, ∃ grouped head groups,
      formatMoney minorUnits currency = signOf minorUnits ++ grouped ++
        fractionText (currencyExponent currency) minorUnits.natAbs ++
        ' ' :: currency ∧
      Separates (Nat.toDigits 10
        (minorUnits.natAbs / 10 ^ currencyExponent currency)) grouped head groups ∧
      1 ≤ head.length ∧ head.length ≤ 3) ∧
    Function.Injective (fun minorUnits => formatMoney minorUnits currency) ∧
    (∀ minorUnits, minorUnitsToDecimalString minorUnits currency =
      withoutSeparators (formatMoney minorUnits currency) currency) ∧
    ∀ units : Fin (maxSafeInteger + 1),
      decimalStringToMinorUnits
        (withoutSeparators (formatMoney units currency) currency) currency =
        some units.val := by
  have sameDigits (minorUnits : Int) :
      minorUnitsToDecimalString minorUnits currency =
        withoutSeparators (formatMoney minorUnits currency) currency := by
    rw [minorUnitsToDecimalString_eq, withoutSeparators_formatMoney]
  constructor
  · exact fun minorUnits => withoutSeparators_formatMoney minorUnits currency
  · constructor
    · intro minorUnits
      rcases wholePart_separates (currencyExponent currency) minorUnits.natAbs with
        ⟨head, groups, separates, some, few⟩
      exact ⟨_, head, groups, formatMoney_eq minorUnits currency, separates, some, few⟩
    · constructor
      · exact formatMoney_injective currency
      · constructor
        · exact sameDigits
        · intro units
          rw [← sameDigits]
          exact decimalStringToMinorUnits_minorUnitsToDecimalString
            (Nat.le_of_lt_succ units.isLt) currency

end OrderToCash.Web
