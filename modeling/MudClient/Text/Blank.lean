import MudClient.Text.CodeRange

/-!
# Blank characters

* `Text.isBlank`: white space in the wide sense, used for trimming and inside patterns
* `Text.dropBlank`: a text without its leading blanks
* `Text.trim`: a text without leading and trailing blanks
-/

set_option autoImplicit false

namespace MudClient.Text

/-- White space: tabs and line ends, the four information separators, and every space
separator. The zero-width space and the byte order mark are none. -/
def blankRanges : List (Nat × Nat) :=
  [(0x9, 0xD), (0x1C, 0x20), (0x85, 0x85), (0xA0, 0xA0), (0x1680, 0x1680), (0x2000, 0x200A),
    (0x2028, 0x2029), (0x202F, 0x202F), (0x205F, 0x205F), (0x3000, 0x3000)]

def isBlank (c : Char) : Bool :=
  CodeRange.covers blankRanges c.toNat

def dropBlank (t : Text) : Text :=
  t.dropWhile isBlank

/-- The text between its first and its last character that are not blank. -/
def trim (t : Text) : Text :=
  (t.dropWhile isBlank).reverse.dropWhile isBlank |>.reverse

def allBlank (t : Text) : Bool :=
  t.all isBlank

theorem length_dropBlank_le (t : Text) : (dropBlank t).length ≤ t.length :=
  (List.dropWhile_sublist _).length_le

end MudClient.Text
