import MudClient.Text.Blank

/-!
# Values from outside

* `Given`: a value from outside, before it is checked
* `FieldError`, `FieldErrors`: what is wrong with the values of fields
* `Given.asFlag`, `Given.asText`, `Given.asWhole`: the values that a kind of field accepts
-/

set_option autoImplicit false

namespace MudClient

inductive Given (α : Type)
  | flag (value : Bool)
  | text (value : Text)
  | whole (value : Int)
  /-- A number with decimal places: `value` divided by ten to the power of `places`. -/
  | decimal (value : Int) (places : Nat)
  | other (value : α)

inductive FieldError
  | boolParsing
  | boolType
  | stringType
  | intParsing
  | intType
  | intFromFloat
  | greaterThanEqual
  | missing
deriving DecidableEq, Repr

def FieldError.name : FieldError → String
  | boolParsing => "bool_parsing"
  | boolType => "bool_type"
  | stringType => "string_type"
  | intParsing => "int_parsing"
  | intType => "int_type"
  | intFromFloat => "int_from_float"
  | greaterThanEqual => "greater_than_equal"
  | missing => "missing"

abbrev FieldErrors := List (Text × FieldError)

namespace Given

variable {α : Type}

def whole? : Given α → Option Int
  | whole n => some n
  | decimal n places => if n % Int.pow 10 places = 0 then some (n / Int.pow 10 places) else none
  | _ => none

/-! ## Flags and texts -/

def trueWords : List Text := ["true", "t", "yes", "y", "on", "1"].map String.toList

def falseWords : List Text := ["false", "f", "no", "n", "off", "0"].map String.toList

/-- A flag may be given by a word in any case, or by the numbers 0 and 1. -/
def asFlag : Given α → Except FieldError Bool
  | flag b => .ok b
  | text t =>
    let word := t.map Char.toLower
    if trueWords.contains word then .ok true
    else if falseWords.contains word then .ok false
    else .error .boolParsing
  | g =>
    match g.whole? with
    | some 0 => .ok false
    | some 1 => .ok true
    | some _ => .error .boolParsing
    | none => .error .boolType

/-- A text is given by a text only. -/
def asText : Given α → Except FieldError Text
  | text t => .ok t
  | _ => .error .stringType

/-! ## Whole numbers -/

/-- The white space that may surround a number: blanks without the information separators. -/
def isPadding (c : Char) : Bool :=
  Text.isBlank c && !('\x1c' ≤ c && c ≤ '\x1f')

/-- The number that ASCII digits go on to write after `value`; `gap` says that no digit came last.
A single underscore may stand between two digits, and decimal places after them if they are zero. -/
def digitsFrom (value : Nat) (gap : Bool) : Text → Option Nat
  | [] => if gap then none else some value
  | c :: t =>
    if c.isDigit then digitsFrom (value * 10 + (c.toNat - '0'.toNat)) false t
    else if gap then none
    else if c = '_' then digitsFrom value true t
    else if c = '.' && t.all (· = '0') then some value
    else none

/-- The whole number that a text writes, with at most one sign and with white space around. -/
def written? (t : Text) : Option Int :=
  match (((t.dropWhile isPadding).reverse.dropWhile isPadding).reverse) with
  | '-' :: digits => (digitsFrom 0 true digits).map fun n => -(n : Int)
  | '+' :: digits => (digitsFrom 0 true digits).map fun n => (n : Int)
  | digits => (digitsFrom 0 true digits).map fun n => (n : Int)

/-- A whole number may be given by a flag, by a text that writes it, and with decimal places of zeros. -/
def asWhole : Given α → Except FieldError Int
  | flag b => .ok (if b then 1 else 0)
  | whole n => .ok n
  | text t => (written? t).elim (.error .intParsing) .ok
  | decimal n places => (decimal n places : Given α).whole?.elim (.error .intFromFloat) .ok
  | other _ => .error .intType

end Given

def checkField {α β : Type} (name : Text) (check : α → Except FieldError β) (fallback : β) :
    Option α → β × FieldErrors
  | none => (fallback, [])
  | some a =>
    match check a with
    | .ok b => (b, [])
    | .error e => (fallback, [(name, e)])

end MudClient
