import OrderToCash.Text.Patterns
import OrderToCash.Text.UpperCase

/-!
# Currency exponents

How many digits of an amount in minor units stand behind the point, by the code
of its currency.
-/

namespace OrderToCash.Kernel

open OrderToCash.Text

def defaultExponent : Nat := 2

/-- The currencies whose exponent is not the default. -/
def nonDefaultExponents : List (List Char × Nat) :=
  [ (['B', 'I', 'F'], 0),
    (['C', 'L', 'P'], 0),
    (['D', 'J', 'F'], 0),
    (['G', 'N', 'F'], 0),
    (['I', 'S', 'K'], 0),
    (['J', 'P', 'Y'], 0),
    (['K', 'M', 'F'], 0),
    (['K', 'R', 'W'], 0),
    (['P', 'Y', 'G'], 0),
    (['R', 'W', 'F'], 0),
    (['U', 'G', 'X'], 0),
    (['V', 'N', 'D'], 0),
    (['V', 'U', 'V'], 0),
    (['X', 'A', 'F'], 0),
    (['X', 'O', 'F'], 0),
    (['X', 'P', 'F'], 0),
    (['B', 'H', 'D'], 3),
    (['I', 'Q', 'D'], 3),
    (['J', 'O', 'D'], 3),
    (['K', 'W', 'D'], 3),
    (['L', 'Y', 'D'], 3),
    (['O', 'M', 'R'], 3),
    (['T', 'N', 'D'], 3),
    (['C', 'L', 'F'], 4),
    (['U', 'Y', 'W'], 4),
    (['U', 'Y', 'I'], 0) ]

def currencyExponent (currency : List Char) : Nat :=
  let code := toUpperCase (trim currency)
  (nonDefaultExponents.lookup code).getD defaultExponent

end OrderToCash.Kernel
