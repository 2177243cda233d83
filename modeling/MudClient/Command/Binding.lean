import MudClient.OrderedMap
import MudClient.Text.Basic

/-!
# Bindings on the command line

* `readBindings`: variables bound by `NAME=VALUE`
-/

set_option autoImplicit false

namespace MudClient.Command

/-- A binding without an equals sign, or without a name before it. -/
structure BindingError where
  written : Text
deriving DecidableEq, Repr

def BindingError.message (e : BindingError) : String :=
  "expected NAME=VALUE, got '" ++ String.ofList e.written ++ "'"

def readBinding (written : Text) : Except BindingError (Text × Text) :=
  match written.span (· ≠ '=') with
  | (c :: name, _ :: value) => .ok (c :: name, value)
  | _ => .error ⟨written⟩

/-- Bindings in order; a name that is bound again keeps its place. -/
def readBindings (written : List Text) : Except BindingError (OrderedMap Text Text) :=
  (written.mapM readBinding).map OrderedMap.ofList

end MudClient.Command
