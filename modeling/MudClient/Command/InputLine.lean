import MudClient.Given
import MudClient.OrderedMap
import MudClient.Text.LineBreak

/-!
# Numbered lines of input

* `InputLine`: a line with its number
* `InputLine.read`: a line from given values
* `numbered`: the lines of a stream with their numbers
-/

set_option autoImplicit false

namespace MudClient.Command

/-- A line with its number, the first one being 1, and with its line end. -/
structure InputLine where
  number : Nat
  text : Text
deriving DecidableEq, Repr

def InputLine.numberName : Text := "number".toList
def InputLine.textName : Text := "text".toList

def lineNumber {α : Type} (g : Given α) : Except FieldError Nat := do
  let n ← g.asWhole
  if 1 ≤ n then return n.toNat else throw .greaterThanEqual

def InputLine.read {α : Type} (values : OrderedMap Text (Given α)) : Except FieldErrors InputLine :=
  let required {β : Type} (name : Text) (check : Given α → Except FieldError β) (fallback : β) :=
    checkField name (fun g => (g.elim (.error .missing) check : Except FieldError β)) fallback
      (some (values.get? name))
  let number := required numberName lineNumber 1
  let text := required textName Given.asText []
  match number.2 ++ text.2 with
  | [] => .ok ⟨number.1, text.1⟩
  | errors => .error errors

/-- Lines with numbers from `n` on. -/
def numberedFrom (n : Nat) : List Text → List InputLine
  | [] => []
  | text :: more => ⟨n, text⟩ :: numberedFrom (n + 1) more

def numbered (ends : Text.LineEnds) (t : Text) : List InputLine :=
  numberedFrom 1 (Text.streamLines ends t)

end MudClient.Command
