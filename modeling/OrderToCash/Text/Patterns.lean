import Mathlib.Computability.RegularExpressions
import Mathlib.Data.List.DropRight

/-!
# Trimmed texts and patterns

The characters the language trims off a text, and the repetitions of its regular
expressions as expressions over characters.
-/

namespace OrderToCash.Text

open RegularExpression

/-! ## Trimming -/

/-- White space and line terminators of the language. -/
def isSpace (char : Char) : Bool :=
  char.toNat ∈ [0x9, 0xA, 0xB, 0xC, 0xD, 0x20, 0xA0, 0x1680, 0x2000, 0x2001, 0x2002,
    0x2003, 0x2004, 0x2005, 0x2006, 0x2007, 0x2008, 0x2009, 0x200A, 0x2028, 0x2029,
    0x202F, 0x205F, 0x3000, 0xFEFF]

/-- `String.prototype.trim`. -/
def trim (text : List Char) : List Char :=
  (text.dropWhile isSpace).rdropWhile isSpace

theorem trim_trim (text : List Char) : trim (trim text) = trim text := by
  unfold trim
  have leading : ((text.dropWhile isSpace).rdropWhile isSpace).dropWhile isSpace =
      (text.dropWhile isSpace).rdropWhile isSpace := by
    rw [List.dropWhile_eq_self_iff]
    intro nonempty
    have start := List.rdropWhile_prefix isSpace (l := text.dropWhile isSpace)
    rw [start.getElem nonempty]
    exact List.dropWhile_get_zero_not isSpace text (nonempty.trans_le start.length_le)
  rw [leading, List.rdropWhile_idempotent]

/-- A text without white space is left as it is. -/
theorem trim_eq_self {text : List Char} (solid : ∀ char ∈ text, ¬ isSpace char) :
    trim text = text := by
  have leading : text.dropWhile isSpace = text :=
    List.dropWhile_eq_self_iff.mpr fun _ => solid _ (List.getElem_mem _)
  rw [trim, leading, List.rdropWhile_eq_self_iff]
  exact fun _ => solid _ (List.getLast_mem _)

/-! ## Repetitions -/

variable {α : Type} [DecidableEq α]

/-- `P+` -/
def oneOrMore (P : RegularExpression α) : RegularExpression α :=
  P * P.star

/-- `P?` -/
def optional (P : RegularExpression α) : RegularExpression α :=
  1 + P

/-- `P{0,n}` -/
def atMost (P : RegularExpression α) : Nat → RegularExpression α
  | 0 => 1
  | most + 1 => optional (P * atMost P most)

/-- `P{1,n}` -/
def oneTo (P : RegularExpression α) : Nat → RegularExpression α
  | 0 => 0
  | most + 1 => P * atMost P most

/-- An expression that matches the single characters of a class. -/
def Reads (P : RegularExpression α) (isIn : α → Bool) : Prop :=
  ∀ word, P.rmatch word ↔ ∃ char, isIn char ∧ word = [char]

theorem optional_rmatch_iff (P : RegularExpression α) (word : List α) :
    (optional P).rmatch word ↔ word = [] ∨ P.rmatch word := by
  rw [optional, add_rmatch_iff, one_rmatch_iff]

namespace Reads

variable {P : RegularExpression α} {isIn : α → Bool} (reads : Reads P isIn)

include reads

/-- One character of the class, then a word. -/
theorem mul_rmatch_iff (Q : RegularExpression α) (word : List α) :
    (P * Q).rmatch word ↔
      ∃ char rest, word = char :: rest ∧ isIn char ∧ Q.rmatch rest := by
  rw [RegularExpression.mul_rmatch_iff]
  constructor
  · rintro ⟨first, rest, rfl, firstMatch, restMatch⟩
    rcases (reads first).mp firstMatch with ⟨char, isInClass, rfl⟩
    exact ⟨char, rest, rfl, isInClass, restMatch⟩
  · rintro ⟨char, rest, rfl, isInClass, restMatch⟩
    exact ⟨[char], rest, rfl, (reads [char]).mpr ⟨char, isInClass, rfl⟩, restMatch⟩

theorem star_rmatch_iff (word : List α) :
    P.star.rmatch word ↔ ∀ char ∈ word, isIn char := by
  rw [RegularExpression.star_rmatch_iff]
  constructor
  · rintro ⟨words, rfl, matched⟩ char charMem
    rcases List.mem_flatten.mp charMem with ⟨single, singleMem, inSingle⟩
    rcases (reads single).mp (matched single singleMem).2 with ⟨other, isInClass, rfl⟩
    exact List.mem_singleton.mp inSingle ▸ isInClass
  · intro all
    refine ⟨word.map fun char => [char], (List.flatMap_singleton' word).symm, ?_⟩
    intro single singleMem
    rcases List.mem_map.mp singleMem with ⟨char, charMem, rfl⟩
    exact ⟨List.cons_ne_nil _ _, (reads _).mpr ⟨char, all char charMem, rfl⟩⟩

theorem oneOrMore_rmatch_iff (word : List α) :
    (oneOrMore P).rmatch word ↔ word ≠ [] ∧ ∀ char ∈ word, isIn char := by
  rw [oneOrMore, reads.mul_rmatch_iff]
  constructor
  · rintro ⟨char, rest, rfl, isInClass, restMatch⟩
    have restAll := (reads.star_rmatch_iff rest).mp restMatch
    exact ⟨List.cons_ne_nil _ _, List.forall_mem_cons.mpr ⟨isInClass, restAll⟩⟩
  · rintro ⟨nonempty, all⟩
    rcases List.exists_cons_of_ne_nil nonempty with ⟨char, rest, rfl⟩
    rcases List.forall_mem_cons.mp all with ⟨isInClass, restAll⟩
    exact ⟨char, rest, rfl, isInClass, (reads.star_rmatch_iff rest).mpr restAll⟩

theorem atMost_rmatch_iff (most : Nat) (word : List α) :
    (atMost P most).rmatch word ↔ word.length ≤ most ∧ ∀ char ∈ word, isIn char := by
  induction most generalizing word with
  | zero =>
      rw [atMost, one_rmatch_iff]
      constructor
      · rintro rfl
        simp
      · rintro ⟨short, -⟩
        exact List.length_eq_zero_iff.mp (Nat.le_zero.mp short)
  | succ most inductionHypothesis =>
      rw [atMost, optional_rmatch_iff, reads.mul_rmatch_iff]
      constructor
      · rintro (rfl | ⟨char, rest, rfl, isInClass, restMatch⟩)
        · simp
        · rcases (inductionHypothesis rest).mp restMatch with ⟨short, restAll⟩
          exact ⟨Nat.succ_le_succ short, List.forall_mem_cons.mpr ⟨isInClass, restAll⟩⟩
      · rintro ⟨short, all⟩
        cases word with
        | nil => exact Or.inl rfl
        | cons char rest =>
            rcases List.forall_mem_cons.mp all with ⟨isInClass, restAll⟩
            exact Or.inr ⟨char, rest, rfl, isInClass,
              (inductionHypothesis rest).mpr ⟨Nat.le_of_succ_le_succ short, restAll⟩⟩

theorem oneTo_rmatch_iff (most : Nat) (word : List α) :
    (oneTo P most).rmatch word ↔
      word ≠ [] ∧ word.length ≤ most ∧ ∀ char ∈ word, isIn char := by
  cases most with
  | zero =>
      rw [oneTo, zero_rmatch]
      constructor
      · intro never
        cases never
      · rintro ⟨nonempty, short, -⟩
        exact absurd (List.length_eq_zero_iff.mp (Nat.le_zero.mp short)) nonempty
  | succ most =>
      rw [oneTo, reads.mul_rmatch_iff]
      constructor
      · rintro ⟨char, rest, rfl, isInClass, restMatch⟩
        rcases (reads.atMost_rmatch_iff most rest).mp restMatch with ⟨short, restAll⟩
        exact ⟨List.cons_ne_nil _ _, Nat.succ_le_succ short,
          List.forall_mem_cons.mpr ⟨isInClass, restAll⟩⟩
      · rintro ⟨nonempty, short, all⟩
        rcases List.exists_cons_of_ne_nil nonempty with ⟨char, rest, rfl⟩
        rcases List.forall_mem_cons.mp all with ⟨isInClass, restAll⟩
        exact ⟨char, rest, rfl, isInClass,
          (reads.atMost_rmatch_iff most rest).mpr
            ⟨Nat.le_of_succ_le_succ short, restAll⟩⟩

end Reads

/-! ## Digits -/

/-- An expression for the characters of a list. -/
def anyOf (chars : List α) : RegularExpression α :=
  chars.foldr (fun char others => .char char + others) 0

theorem anyOf_rmatch_iff (chars : List α) (word : List α) :
    (anyOf chars).rmatch word ↔ ∃ char ∈ chars, word = [char] := by
  induction chars with
  | nil => simp [anyOf]
  | cons first rest inductionHypothesis =>
      rw [anyOf, List.foldr_cons, add_rmatch_iff, char_rmatch_iff, ← anyOf,
        inductionHypothesis]
      simp

/-- `\d` -/
def digit : RegularExpression Char :=
  anyOf ((List.range 10).map Nat.digitChar)

theorem toNat_of_isDigit {char : Char} (isDigit : char.isDigit) :
    48 ≤ char.toNat ∧ char.toNat ≤ 57 := by
  simpa [Char.isDigit, UInt32.le_iff_toNat_le] using isDigit

theorem not_isSpace_of_isDigit {char : Char} (isDigit : char.isDigit) :
    ¬ isSpace char := by
  have bounds := toNat_of_isDigit isDigit
  simp only [isSpace, decide_eq_true_eq, List.mem_cons, List.not_mem_nil, or_false]
  omega

theorem mem_digits_iff {char : Char} :
    char ∈ (List.range 10).map Nat.digitChar ↔ char.isDigit := by
  rw [List.mem_map]
  constructor
  · rintro ⟨number, numberMem, rfl⟩
    rw [List.mem_range] at numberMem
    have single : Nat.digitChar number ∈ Nat.toDigits 10 number := by
      rw [Nat.toDigits_of_lt_base numberMem]
      exact List.mem_singleton_self _
    exact Nat.isDigit_of_mem_toDigits (by decide) (by decide) single
  · intro isDigit
    have bounds := toNat_of_isDigit isDigit
    have small : char.toNat - 48 < 10 := by omega
    refine ⟨char.toNat - 48, List.mem_range.mpr small, ?_⟩
    rw [← Char.toNat_inj, Nat.toNat_digitChar_of_lt_ten small]
    omega

theorem reads_digit : Reads digit Char.isDigit := by
  intro word
  rw [digit, anyOf_rmatch_iff]
  simp only [mem_digits_iff]

end OrderToCash.Text
