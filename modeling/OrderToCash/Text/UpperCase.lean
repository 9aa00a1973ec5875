import Mathlib.Data.List.Basic

/-!
# Upper case

The upper case of a text, as far as the letters `A` to `Z` can tell it.
-/

namespace OrderToCash.Text

/-- `String.prototype.toUpperCase` on a character whose upper case is of the letters
`A` to `Z`.  The others have one that holds no such letter, and are left as they
are. -/
def upperCase (char : Char) : List Char :=
  match char with
  | 'ı' => ['I']
  | 'ſ' => ['S']
  | 'ß' => ['S', 'S']
  | 'ﬀ' => ['F', 'F']
  | 'ﬁ' => ['F', 'I']
  | 'ﬂ' => ['F', 'L']
  | 'ﬃ' => ['F', 'F', 'I']
  | 'ﬄ' => ['F', 'F', 'L']
  | 'ﬅ' => ['S', 'T']
  | 'ﬆ' => ['S', 'T']
  | char => [char.toUpper]

def toUpperCase (text : List Char) : List Char :=
  text.flatMap upperCase

/-- No letter is both small and capital. -/
theorem toUpper_of_isUpper {char : Char} (isUpper : char.isUpper = true) :
    char.toUpper = char := by
  have capital : 'A'.val ≤ char.val ∧ char.val ≤ 'Z'.val := of_decide_eq_true isUpper
  have notSmall : ¬ ('a'.val ≤ char.val ∧ char.val ≤ 'z'.val) := by
    rintro ⟨small, _⟩
    exact absurd (UInt32.le_trans small capital.2) (by decide)
  exact dif_neg notSmall

theorem upperCase_of_isUpper {char : Char} (isUpper : char.isUpper = true) :
    upperCase char = [char] := by
  unfold upperCase
  split
  all_goals first
    | exact absurd isUpper (by decide)
    | rw [toUpper_of_isUpper isUpper]

/-- A text of such letters is its own upper case. -/
theorem toUpperCase_of_isUpper {text : List Char}
    (allUpper : ∀ char ∈ text, char.isUpper = true) : toUpperCase text = text := by
  induction text with
  | nil => rfl
  | cons char rest inductionHypothesis =>
      have ofRest := inductionHypothesis fun other otherMem =>
        allUpper other (List.mem_cons_of_mem _ otherMem)
      unfold toUpperCase at *
      rw [List.flatMap_cons, ofRest, upperCase_of_isUpper (allUpper char (by simp)),
        List.singleton_append]

end OrderToCash.Text
