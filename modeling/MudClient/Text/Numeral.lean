import MudClient.Text.Basic

/-!
# Numerals

* `Text.numeral`: the number that ASCII digits write
* `Text.TooManyDigits`, `Text.decimal?`: decimal numbers are read up to a limit of digits
* `Text.aligned`, `Text.padded`: a number with blanks, or zeros, before it
-/

set_option autoImplicit false

namespace MudClient.Text

def digitValue (c : Char) : Nat :=
  if c.isDigit then c.toNat - '0'.toNat
  else if 'a' ≤ c then c.toNat - 'a'.toNat + 10
  else c.toNat - 'A'.toNat + 10

def isHexDigit (c : Char) : Bool :=
  c.isDigit || ('a' ≤ c && c ≤ 'f') || ('A' ≤ c && c ≤ 'F')

def numeral (base : Nat) (digits : Text) : Nat :=
  digits.foldl (fun n c => n * base + digitValue c) 0

/-- Decimal numbers are read with at most so many digits. -/
def digitLimit : Nat := 4300

structure TooManyDigits where
  digits : Nat
deriving DecidableEq, Repr

def TooManyDigits.message (e : TooManyDigits) : String :=
  "Exceeds the limit (4300 digits) for integer string conversion: value has " ++
    toString e.digits ++ " digits; use sys.set_int_max_str_digits() to increase the limit"

/-- The number that decimal digits write, leading zeros counting as digits. -/
def decimal? (digits : Text) : Except TooManyDigits Nat :=
  if digitLimit < digits.length then .error ⟨digits.length⟩ else .ok (numeral 10 digits)

def ofNat (n : Nat) : Text := (toString n).toList

/-- A number at the right end of so many places. -/
def aligned (fill : Char) (width n : Nat) : Text :=
  List.replicate (width - (ofNat n).length) fill ++ ofNat n

def padded (width n : Nat) : Text := aligned '0' width n

end MudClient.Text
