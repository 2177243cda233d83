import MudClient.Text.Blank

/-!
# Room titles

* `roomTitle`: the title inside the decoration that the game puts around it
-/

set_option autoImplicit false

namespace MudClient.Stream

/-- A leading ` - ` goes, then a pair of brackets around the whole, then blanks at both ends. -/
def roomTitle (subtitle : Text) : Text :=
  let title := (Text.after? " - ".toList subtitle).getD subtitle
  match title with
  | '[' :: inner =>
    if inner.getLast? = some ']' then Text.trim inner.dropLast else Text.trim title
  | _ => Text.trim title

end MudClient.Stream
