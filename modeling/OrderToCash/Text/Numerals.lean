import Mathlib.Data.Nat.Log
import Mathlib.Tactic.Ring

/-!
# Decimal numerals

Naturals written as decimal digits, numerals padded with zeros, and numerals read
as numbers.  A number is read exactly up to the precision of a double, and beyond
it as the nearest double.
-/

namespace OrderToCash.Text

/-! ## Padding -/

def padStart (width : Nat) (fill : Char) (text : List Char) : List Char :=
  List.replicate (width - text.length) fill ++ text

def padEnd (width : Nat) (fill : Char) (text : List Char) : List Char :=
  text ++ List.replicate (width - text.length) fill

theorem padStart_of_le {width : Nat} {fill : Char} {text : List Char}
    (wide : width ≤ text.length) : padStart width fill text = text := by
  simp [padStart, Nat.sub_eq_zero_of_le wide]

theorem padStart_append_singleton (width : Nat) (fill last : Char)
    (text : List Char) :
    padStart (width + 1) fill (text ++ [last]) = padStart width fill text ++ [last] := by
  simp [padStart]

/-! ## Digits -/

/-- The number a numeral stands for. -/
def valueOf (text : List Char) : Nat :=
  Nat.ofDigitChars 10 text 0

theorem valueOf_append (first second : List Char) :
    valueOf (first ++ second) = valueOf first * 10 ^ second.length + valueOf second := by
  unfold valueOf
  rw [Nat.ofDigitChars_append, Nat.ofDigitChars_eq_ofDigitChars_zero, Nat.mul_comm]

/-- Zeros behind a numeral multiply it by powers of ten. -/
theorem valueOf_padEnd (width : Nat) (text : List Char) :
    valueOf (padEnd width '0' text) =
      valueOf text * 10 ^ (width - text.length) := by
  rw [padEnd, valueOf_append, List.length_replicate]
  simp [valueOf]

theorem valueOf_toDigits (number : Nat) : valueOf (Nat.toDigits 10 number) = number :=
  Nat.ofDigitChars_ten_toDigits

theorem isDigit_of_mem_toDigits {number : Nat} {char : Char}
    (written : char ∈ Nat.toDigits 10 number) : char.isDigit :=
  Nat.isDigit_of_mem_toDigits (by decide) (by decide) written

/-- The last digits of a number. -/
def lastDigits : Nat → Nat → List Char
  | 0, _ => []
  | width + 1, number => lastDigits width (number / 10) ++ [Nat.digitChar (number % 10)]

@[simp]
theorem length_lastDigits (width number : Nat) :
    (lastDigits width number).length = width := by
  induction width generalizing number with
  | zero => rfl
  | succ width inductionHypothesis => simp [lastDigits, inductionHypothesis]

theorem isDigit_of_mem_lastDigits {width number : Nat} {char : Char}
    (written : char ∈ lastDigits width number) : char.isDigit := by
  induction width generalizing number with
  | zero => cases written
  | succ width inductionHypothesis =>
      rcases List.mem_append.mp written with earlier | last
      · exact inductionHypothesis earlier
      · have single : char ∈ Nat.toDigits 10 (number % 10) := by
          rw [Nat.toDigits_of_lt_base (Nat.mod_lt _ (by decide))]
          exact last
        exact isDigit_of_mem_toDigits single

theorem valueOf_lastDigits (width number : Nat) :
    valueOf (lastDigits width number) = number % 10 ^ width := by
  induction width generalizing number with
  | zero => simp [lastDigits, valueOf, Nat.mod_one]
  | succ width inductionHypothesis =>
      have last : valueOf [Nat.digitChar (number % 10)] = number % 10 := by
        rw [← Nat.toDigits_of_lt_base (Nat.mod_lt _ (by decide))]
        exact valueOf_toDigits _
      rw [lastDigits, valueOf_append, inductionHypothesis, last, Nat.pow_succ',
        Nat.mod_mul]
      simp only [List.length_singleton, Nat.pow_one]
      ring

/-- A number written with at least one digit before its last ones. -/
theorem padStart_toDigits (width number : Nat) :
    padStart (width + 1) '0' (Nat.toDigits 10 number) =
      Nat.toDigits 10 (number / 10 ^ width) ++ lastDigits width number := by
  induction width generalizing number with
  | zero =>
      have one : 0 + 1 ≤ (Nat.toDigits 10 number).length := Nat.length_toDigits_pos
      rw [padStart_of_le one, Nat.pow_zero, Nat.div_one, lastDigits, List.append_nil]
  | succ width inductionHypothesis =>
      have rest := inductionHypothesis (number / 10)
      rw [Nat.div_div_eq_div_mul, ← Nat.pow_succ'] at rest
      rw [Nat.toDigits_eq_if (by decide), lastDigits, ← List.append_assoc, ← rest]
      split
      · rename_i small
        have none : number / 10 = 0 := Nat.div_eq_of_lt small
        rw [Nat.mod_eq_of_lt small, none]
        simp [padStart, Nat.toDigits_zero, List.replicate_succ']
      · rw [padStart_append_singleton]

/-! ## Numbers -/

/-- The nearest multiple of a unit, the even one of two. -/
def roundHalfEven (number unit : Nat) : Nat :=
  let quotient := number / unit
  let remainder := number % unit
  if 2 * remainder < unit ∨ 2 * remainder = unit ∧ quotient % 2 = 0 then quotient
  else quotient + 1

/-- The nearest double to a natural; past the largest double there is none. -/
def nearestDouble (number : Nat) : Option Nat :=
  let unit := 2 ^ (number.log2 - 52)
  let double := roundHalfEven number unit * unit
  if double.log2 < 1024 then some double else none

theorem div_le_roundHalfEven (number unit : Nat) :
    number / unit ≤ roundHalfEven number unit := by
  unfold roundHalfEven
  dsimp only
  split
  · exact le_rfl
  · exact Nat.le_succ _

theorem nearestDouble_of_lt {number : Nat} (exact : number < 2 ^ 53) :
    nearestDouble number = some number := by
  have small : number.log2 < 53 := by
    rcases Nat.eq_zero_or_pos number with rfl | positive
    · decide
    · exact (Nat.log2_lt positive.ne').mpr exact
  have unit : number.log2 - 52 = 0 := by omega
  have finite : number.log2 < 1024 := small.trans (by decide)
  simp [nearestDouble, roundHalfEven, unit, Nat.mod_one, finite]

/-- No number is read as one below the precision it is above. -/
theorem le_of_nearestDouble_eq_some {number double : Nat} (large : 2 ^ 53 ≤ number)
    (read : nearestDouble number = some double) : 2 ^ 53 ≤ double := by
  have positive : number ≠ 0 := by
    intro zero
    simp [zero] at large
  have exponent : 53 ≤ number.log2 := (Nat.le_log2 positive).mpr large
  have whole : 2 ^ 52 ≤ number / 2 ^ (number.log2 - 52) := by
    rw [Nat.le_div_iff_mul_le (Nat.two_pow_pos _), ← Nat.pow_add,
      Nat.add_sub_cancel' (by omega)]
    exact Nat.log2_self_le positive
  have two : 2 ^ 1 ≤ 2 ^ (number.log2 - 52) :=
    Nat.pow_le_pow_right (by decide) (by omega)
  unfold nearestDouble at read
  dsimp only at read
  split at read
  · cases read
    exact Nat.mul_le_mul (whole.trans (div_le_roundHalfEven _ _)) two
  · cases read

end OrderToCash.Text
