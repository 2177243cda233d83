import MudClient.Text.Blank
import MudClient.Text.Numeral
import MudClient.Text.Word

/-!
# Whole numbers as written

* `Text.digitsValue?`: digits of any script, single underscores between them
* `Text.integer?`: the same with a sign, and blanks around the whole

Both have a limit of digits.
-/

set_option autoImplicit false

namespace MudClient.Text

/-- The number that digits go on to write after `value`; `gap` says that an underscore came last. -/
def digitsFrom (value : Nat) (gap : Bool) : Text → Option Nat
  | [] => if gap then none else some value
  | c :: t =>
    if c = '_' then if gap then none else digitsFrom value true t
    else
      match decimalValue? c with
      | some d => digitsFrom (value * 10 + d) false t
      | none => none

/-- The number written by one or more digits, though not by too many; a single underscore may stand between two
of them. -/
def digitsValue? (t : Text) : Option Nat :=
  if digitLimit < (t.filter (· ≠ '_')).length then none else digitsFrom 0 true t

/-- Blanks around a number. The information separators are none of them. -/
def isNumberBlank (c : Char) : Bool :=
  isBlank c && !('\x1c' ≤ c && c ≤ '\x1f')

/-- The number written by digits with at most one sign before them and blanks around. -/
def integer? (t : Text) : Option Int :=
  match ((t.dropWhile isNumberBlank).reverse.dropWhile isNumberBlank).reverse with
  | '-' :: digits => (digitsValue? digits).map fun n => -(n : Int)
  | '+' :: digits => (digitsValue? digits).map fun n => (n : Int)
  | digits => (digitsValue? digits).map fun n => (n : Int)

end MudClient.Text
