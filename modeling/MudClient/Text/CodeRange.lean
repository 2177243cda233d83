import MudClient.Text.Basic

/-!
# Ranges of code points

* `CodeRange.covers`: membership in a table of inclusive ranges
-/

set_option autoImplicit false

namespace MudClient.CodeRange

/-- Whether one of the inclusive ranges holds the code point. -/
def covers (ranges : List (Nat × Nat)) (code : Nat) : Bool :=
  ranges.any fun r => r.1 ≤ code && code ≤ r.2

end MudClient.CodeRange
