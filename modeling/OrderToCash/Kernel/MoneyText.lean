import OrderToCash.Kernel.CurrencyExponent
import OrderToCash.Text.Numerals

/-!
# Amounts as text

`formatMoney` writes an amount for a reader: its sign, the whole part in groups
of three, the fraction and the currency.  The groups are found by a pattern that
matches between two digits when threes of digits follow up to the last one.
-/

namespace OrderToCash.Kernel

open OrderToCash.Text

/-! ## Grouping -/

/-- `\w` -/
def isWordChar (char : Char) : Bool :=
  char.isAlphanum || char = '_'

/-- `\B` between two characters, where there are any. -/
def notBoundary (before after : Option Char) : Bool :=
  before.any isWordChar = after.any isWordChar

/-- `(?=(\d{3})+(?!\d))` before the rest of a text: threes of digits, one or more,
and then no digit. -/
def threesAhead : List Char → Bool
  | first :: second :: third :: rest =>
      first.isDigit && second.isDigit && third.isDigit &&
        (!rest.head?.any Char.isDigit || threesAhead rest)
  | _ => false

/-- Replacing every match of the pattern by a separator. -/
def groupFrom (before : Option Char) : List Char → List Char
  | [] => if notBoundary before none && threesAhead [] then [' '] else []
  | char :: rest =>
      if notBoundary before (some char) && threesAhead (char :: rest) then
        ' ' :: char :: groupFrom (some char) rest
      else
        char :: groupFrom (some char) rest

/-- A numeral is followed by threes exactly when its length is one of theirs. -/
theorem threesAhead_eq {digits : List Char}
    (allDigits : ∀ char ∈ digits, char.isDigit) :
    threesAhead digits = decide (digits ≠ [] ∧ digits.length % 3 = 0) := by
  induction digits using threesAhead.induct with
  | case1 first second third rest inductionHypothesis =>
      simp only [List.forall_mem_cons] at allDigits
      rcases allDigits with ⟨firstDigit, secondDigit, thirdDigit, restDigits⟩
      rw [threesAhead, inductionHypothesis restDigits, firstDigit, secondDigit, thirdDigit]
      cases rest with
      | nil => simp
      | cons next others =>
          have nextDigit := restDigits next List.mem_cons_self
          simp only [List.length_cons, List.head?_cons, Option.any_some, nextDigit]
          simp
          omega
  | case2 digits short =>
      match digits, short with
      | [], _ => rfl
      | [_], _ => rfl
      | [_, _], _ => rfl
      | first :: second :: third :: rest, short =>
          exact absurd rfl (short first second third rest)

/-- A text is its digits with a separator before each group of three. -/
structure Separates (digits text head : List Char) (groups : List (List Char)) :
    Prop where
  text_eq : text = head ++ groups.flatMap (' ' :: ·)
  digits_eq : digits = head ++ groups.flatten
  length_group : ∀ group ∈ groups, group.length = 3

/-- Digits behind a digit are separated in threes from the right. -/
theorem groupFrom_digit {before : Char} (beforeDigit : before.isDigit)
    {digits : List Char} (allDigits : ∀ char ∈ digits, char.isDigit) :
    ∃ head groups, Separates digits (groupFrom (some before) digits) head groups ∧
      head.length = digits.length % 3 := by
  induction digits generalizing before with
  | nil => exact ⟨[], [], ⟨by simp [groupFrom, threesAhead], rfl, by simp⟩, rfl⟩
  | cons char rest inductionHypothesis =>
      have charDigit := allDigits char List.mem_cons_self
      have restDigits : ∀ other ∈ rest, other.isDigit := fun other otherMem =>
        allDigits other (List.mem_cons_of_mem _ otherMem)
      rcases inductionHypothesis charDigit restDigits with
        ⟨head, groups, separates, headLength⟩
      have inside : notBoundary (some before) (some char) = true := by
        simp [notBoundary, isWordChar, Char.isAlphanum, beforeDigit, charDigit]
      have step : groupFrom (some before) (char :: rest) =
          if (char :: rest).length % 3 = 0 then ' ' :: char :: groupFrom (some char) rest
          else char :: groupFrom (some char) rest := by
        rw [groupFrom, inside, threesAhead_eq allDigits]
        simp only [ne_eq, reduceCtorEq, not_false_eq_true, true_and, Bool.true_and,
          decide_eq_true_eq]
      by_cases whole : (char :: rest).length % 3 = 0
      · -- A separator stands before this digit, which begins a group.
        have three : (char :: head).length = 3 := by
          rw [List.length_cons] at whole ⊢
          omega
        refine ⟨[], (char :: head) :: groups, ⟨?_, ?_, ?_⟩, whole.symm⟩
        · rw [step, if_pos whole, separates.text_eq]
          rfl
        · rw [separates.digits_eq]
          rfl
        · exact List.forall_mem_cons.mpr ⟨three, separates.length_group⟩
      · refine ⟨char :: head, groups, ⟨?_, ?_, separates.length_group⟩, ?_⟩
        · rw [step, if_neg whole, separates.text_eq]
          rfl
        · rw [separates.digits_eq]
          rfl
        · rw [List.length_cons] at whole ⊢
          rw [List.length_cons]
          omega

/-- The whole part of an amount, grouped. -/
def groupedInteger (digits : List Char) : List Char :=
  groupFrom none digits

/-- A numeral is grouped in threes from the right, one to three digits first. -/
theorem groupedInteger_separates {digits : List Char} (nonempty : digits ≠ [])
    (allDigits : ∀ char ∈ digits, char.isDigit) :
    ∃ head groups, Separates digits (groupedInteger digits) head groups ∧
      1 ≤ head.length ∧ head.length ≤ 3 := by
  cases digits with
  | nil => exact absurd rfl nonempty
  | cons char rest =>
      rcases List.forall_mem_cons.mp allDigits with ⟨charDigit, restDigits⟩
      rcases groupFrom_digit charDigit restDigits with
        ⟨head, groups, separates, headLength⟩
      have atStart : notBoundary none (some char) = false := by
        simp [notBoundary, isWordChar, Char.isAlphanum, charDigit]
      refine ⟨char :: head, groups, ⟨?_, ?_, separates.length_group⟩, ?_, ?_⟩
      · rw [groupedInteger, groupFrom, atStart, separates.text_eq]
        simp
      · simp [separates.digits_eq]
      · exact Nat.succ_pos _
      · rw [List.length_cons]
        omega

theorem filter_flatMap_separator (groups : List (List Char)) :
    (groups.flatMap (' ' :: ·)).filter (· ≠ ' ') = groups.flatten.filter (· ≠ ' ') := by
  induction groups with
  | nil => rfl
  | cons group rest inductionHypothesis =>
      rw [List.flatMap_cons, List.flatten_cons, List.filter_append,
        List.filter_append, List.filter_cons_of_neg (by decide), inductionHypothesis]

/-- Deleting the separators gives the digits back. -/
theorem Separates.filter_text {digits text head : List Char}
    {groups : List (List Char)} (separates : Separates digits text head groups)
    (solid : ∀ char ∈ digits, char ≠ ' ') : text.filter (· ≠ ' ') = digits := by
  rw [separates.text_eq, List.filter_append, filter_flatMap_separator,
    ← List.filter_append, ← separates.digits_eq]
  exact List.filter_eq_self.mpr (by simpa using solid)

/-! ## Amounts -/

def signOf (minorUnits : Int) : List Char :=
  if minorUnits < 0 then ['-'] else []

/-- The digits of `Math.trunc(Math.abs(minorUnits)).toString()`. -/
def digitsOf (minorUnits : Int) : List Char :=
  Nat.toDigits 10 minorUnits.natAbs

def formatMoney (minorUnits : Int) (currency : List Char) : List Char :=
  let exponent := currencyExponent currency
  let sign := signOf minorUnits
  let digits := digitsOf minorUnits
  let digits :=
    if digits.length ≤ exponent then padStart (exponent + 1) '0' digits else digits
  let splitAt := digits.length - exponent
  let integerDigits := digits.take splitAt
  let fractionDigits := digits.drop splitAt
  let fraction := if 0 < exponent then '.' :: fractionDigits else []
  sign ++ groupedInteger integerDigits ++ fraction ++ ' ' :: currency

/-- The fraction of an amount, if its currency has one. -/
def fractionText (exponent units : Nat) : List Char :=
  if 0 < exponent then '.' :: lastDigits exponent units else []

/-- An amount in decimal: its sign, the digits of the whole part and those of the
fraction. -/
def plainDecimal (exponent : Nat) (minorUnits : Int) : List Char :=
  signOf minorUnits ++ Nat.toDigits 10 (minorUnits.natAbs / 10 ^ exponent) ++
    fractionText exponent minorUnits.natAbs

/-- Padded or long enough, the digits are the whole part's and the fraction's. -/
theorem paddedDigits_eq (exponent : Nat) (minorUnits : Int) :
    padStart (exponent + 1) '0' (digitsOf minorUnits) =
      Nat.toDigits 10 (minorUnits.natAbs / 10 ^ exponent) ++
        lastDigits exponent minorUnits.natAbs :=
  padStart_toDigits exponent minorUnits.natAbs

theorem formatMoney_eq (minorUnits : Int) (currency : List Char) :
    formatMoney minorUnits currency =
      signOf minorUnits ++
        groupedInteger (Nat.toDigits 10
          (minorUnits.natAbs / 10 ^ currencyExponent currency)) ++
        fractionText (currencyExponent currency) minorUnits.natAbs ++
        ' ' :: currency := by
  have padded : (if (digitsOf minorUnits).length ≤ currencyExponent currency then
      padStart (currencyExponent currency + 1) '0' (digitsOf minorUnits)
      else digitsOf minorUnits) =
      Nat.toDigits 10 (minorUnits.natAbs / 10 ^ currencyExponent currency) ++
        lastDigits (currencyExponent currency) minorUnits.natAbs := by
    rw [← paddedDigits_eq]
    split
    · rfl
    · rename_i long
      exact (padStart_of_le (Nat.lt_of_not_le long)).symm
  unfold formatMoney
  simp only [padded, List.length_append, length_lastDigits, Nat.add_sub_cancel,
    List.take_left, List.drop_left, fractionText]

/-- A reader's text without its currency and its separators. -/
def withoutSeparators (text currency : List Char) : List Char :=
  (text.take (text.length - (currency.length + 1))).filter (· ≠ ' ')

theorem ne_space_of_isDigit {char : Char} (isDigit : char.isDigit) : char ≠ ' ' := by
  rintro rfl
  cases isDigit

/-- The whole part of an amount is grouped in threes from the right. -/
theorem wholePart_separates (exponent units : Nat) :
    ∃ head groups, Separates (Nat.toDigits 10 (units / 10 ^ exponent))
      (groupedInteger (Nat.toDigits 10 (units / 10 ^ exponent))) head groups ∧
      1 ≤ head.length ∧ head.length ≤ 3 :=
  groupedInteger_separates Nat.toDigits_ne_nil fun _ => isDigit_of_mem_toDigits

theorem withoutSeparators_formatMoney (minorUnits : Int) (currency : List Char) :
    withoutSeparators (formatMoney minorUnits currency) currency =
      plainDecimal (currencyExponent currency) minorUnits := by
  rcases wholePart_separates (currencyExponent currency) minorUnits.natAbs with
    ⟨head, groups, separates, -, -⟩
  have whole := separates.filter_text fun char written =>
    ne_space_of_isDigit (isDigit_of_mem_toDigits written)
  have sign : (signOf minorUnits).filter (· ≠ ' ') = signOf minorUnits := by
    unfold signOf
    split <;> rfl
  have fraction : (fractionText (currencyExponent currency) minorUnits.natAbs).filter
      (· ≠ ' ') = fractionText (currencyExponent currency) minorUnits.natAbs := by
    rw [List.filter_eq_self]
    intro char written
    unfold fractionText at written
    split at written
    · rcases List.mem_cons.mp written with rfl | written
      · rfl
      · simpa using ne_space_of_isDigit (isDigit_of_mem_lastDigits written)
    · cases written
  have cut (text : List Char) :
      (text ++ ' ' :: currency).take
        ((text ++ ' ' :: currency).length - (currency.length + 1)) = text := by
    simp
  rw [withoutSeparators, formatMoney_eq, cut, List.filter_append, List.filter_append,
    sign, whole, fraction, plainDecimal]

/-! ## Reading a decimal -/

theorem mem_plainDecimal_sign (exponent : Nat) (minorUnits : Int) :
    '-' ∈ plainDecimal exponent minorUnits ↔ minorUnits < 0 := by
  have notWhole : '-' ∉ Nat.toDigits 10 (minorUnits.natAbs / 10 ^ exponent) :=
    fun written => by cases isDigit_of_mem_toDigits written
  have notFraction : '-' ∉ fractionText exponent minorUnits.natAbs := by
    intro written
    unfold fractionText at written
    split at written
    · rcases List.mem_cons.mp written with same | written
      · cases same
      · cases isDigit_of_mem_lastDigits written
    · cases written
  rw [plainDecimal, List.mem_append, List.mem_append]
  simp only [notWhole, notFraction, or_false, signOf]
  split <;> simp_all

/-- The digits of a decimal are those of the amount in minor units. -/
theorem valueOf_digits_plainDecimal (exponent : Nat) (minorUnits : Int) :
    valueOf ((plainDecimal exponent minorUnits).filter Char.isDigit) =
      minorUnits.natAbs := by
  have sign : (signOf minorUnits).filter Char.isDigit = [] := by
    unfold signOf
    split <;> rfl
  have whole : (Nat.toDigits 10 (minorUnits.natAbs / 10 ^ exponent)).filter
      Char.isDigit = Nat.toDigits 10 (minorUnits.natAbs / 10 ^ exponent) :=
    List.filter_eq_self.mpr fun _ => isDigit_of_mem_toDigits
  have last : (lastDigits exponent minorUnits.natAbs).filter Char.isDigit =
      lastDigits exponent minorUnits.natAbs :=
    List.filter_eq_self.mpr fun _ => isDigit_of_mem_lastDigits
  have fraction : (fractionText exponent minorUnits.natAbs).filter Char.isDigit =
      lastDigits exponent minorUnits.natAbs := by
    unfold fractionText
    split
    · rw [List.filter_cons_of_neg (by decide), last]
    · rename_i none
      rw [Nat.eq_zero_of_not_pos none]
      rfl
  rw [plainDecimal, List.filter_append, List.filter_append, sign, whole, fraction,
    List.nil_append, valueOf_append, valueOf_toDigits, valueOf_lastDigits,
    length_lastDigits, Nat.div_add_mod']

theorem plainDecimal_injective (exponent : Nat) :
    Function.Injective (plainDecimal exponent) := by
  intro first second same
  have sameValue : first.natAbs = second.natAbs := by
    rw [← valueOf_digits_plainDecimal exponent first, same,
      valueOf_digits_plainDecimal]
  have sameSign : first < 0 ↔ second < 0 := by
    rw [← mem_plainDecimal_sign exponent first, same, mem_plainDecimal_sign]
  omega

theorem formatMoney_injective (currency : List Char) :
    Function.Injective fun minorUnits => formatMoney minorUnits currency := by
  intro first second same
  apply plainDecimal_injective (currencyExponent currency)
  rw [← withoutSeparators_formatMoney, ← withoutSeparators_formatMoney]
  exact congrArg (withoutSeparators · currency) same

end OrderToCash.Kernel
