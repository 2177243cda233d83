import MudClient.OrderedMap
import MudClient.Text.Quoted

/-!
# Flat events of a line

* `Attributes`: the attributes of a tag, each key once
* `Event`: a run of text, or one tag as it stands in the line
* `Notice`: what was odd about a line and how it was put right
-/

set_option autoImplicit false

namespace MudClient.Markup

/-- Attribute values by key, in the order in which the keys stand in the tag. -/
abbrev Attributes := OrderedMap Text Text

/-- What a line consists of, from left to right. -/
inductive Event
  | text (content : Text)
  | opening (name : Text) (attributes : Attributes)
  | selfClosing (name : Text) (attributes : Attributes)
  | closing (name : Text)

/-- A deviation that was recovered from. -/
inductive Notice
  /-- A closing tag without an end, or with more than blanks after its name; `rest` is the line from it on. -/
  | malformedClosing (rest : Text)
  /-- A tag that the end of the line or another tag cuts off. -/
  | unterminatedTag (rest : Text)
  /-- An attribute of the tag at the front of `rest` whose quoted value never ends. -/
  | unterminatedAttribute (key rest : Text)
  /-- A value whose end was found only by the end of its tag; `written` has its delimiters. -/
  | unbalancedQuotes (written : Text)
  /-- A closing tag that no open tag matches. -/
  | strayClosing (name : Text)
  /-- A tag that is still open where the line ends. -/
  | impliedClosing (name : Text)
deriving DecidableEq

def Notice.message : Notice → String
  | .malformedClosing rest =>
    "Malformed close tag kept as text: " ++ String.ofList rest.quoted
  | .unterminatedTag rest =>
    "Unterminated tag kept as text: " ++ String.ofList rest.quoted
  | .unterminatedAttribute key rest =>
    "Unterminated attribute '" ++ String.ofList key ++ "' in " ++ String.ofList rest.quoted
  | .unbalancedQuotes written =>
    "Recovered unbalanced quotes in attribute value: " ++ String.ofList written.quoted
  | .strayClosing name =>
    "Dropped stray close tag </" ++ String.ofList name ++ ">"
  | .impliedClosing name =>
    "Implicitly closed <" ++ String.ofList name ++ "> at end of line"

end MudClient.Markup
