import MudClient.Markup.Scan
import MudClient.Markup.Tree

/-!
# The tags of a line

* `readLine`: the tags of one line of the game's stream, line end included
-/

set_option autoImplicit false

namespace MudClient.Markup

/-- A line without an opening bracket is one run of text, even when it is empty; any other line is
the tree of its events. -/
def readLine (line : Text) : List Tag × List Notice :=
  if line.contains '<' then
    let scanned := scan line
    let built := Tag.ofEvents scanned.events
    (built.1, scanned.notices ++ built.2)
  else ([Tag.text line], [])

end MudClient.Markup
