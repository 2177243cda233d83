import MudClient.Markup.Event
import MudClient.Text.LowerCase

/-!
# Tags as trees

* `Tag`: a parsed tag with its children; text at any level is a tag named `text`
* `Tag.named`: a tag whose name is put into lower case
* `Tag.innerText`: all text inside a tag
* `Tag.valueOf`: the value a tag has through its children
* `Tag.same`: equality up to the order of attributes
-/

set_option autoImplicit false

namespace MudClient.Markup

/-- A tag, the text right inside it or the values of its children, and the children themselves. -/
structure Tag where
  name : Text
  attributes : Attributes
  value : Text
  children : List Tag
  selfClosing : Bool

namespace Tag

def textName : Text := "text".toList

/-- A tag with its name in lower case. -/
def named (name : Text) (attributes : Attributes) (value : Text) (children : List Tag)
    (selfClosing : Bool) : Tag :=
  ⟨name.lower, attributes, value, children, selfClosing⟩

def text (content : Text) : Tag :=
  ⟨textName, .empty, content, [], false⟩

/-- Whether a tag counts as text, which its name alone decides. -/
def isText (tag : Tag) : Bool :=
  tag.name == textName

def attribute? (tag : Tag) (key : Text) : Option Text :=
  tag.attributes.get? key

def attributeOrEmpty (tag : Tag) (key : Text) : Text :=
  (tag.attribute? key).getD []

def hasAttribute (tag : Tag) (key : Text) : Bool :=
  tag.attributes.contains key

/-- The value of a tag with these children: its direct text, or, when it has none, the values of its
children between commas. -/
def valueOf (children : List Tag) : Text :=
  let texts := children.filter isText
  if texts.isEmpty then Text.join [','] (children.map value) else (texts.map value).flatten

mutual

/-- The text inside a tag in the order of the line. A text tag and a tag without children have
their value. -/
def innerText : Tag → Text
  | ⟨name, _, value, children, _⟩ =>
    if name = textName then value
    else if children.isEmpty then value
    else innerTexts children

def innerTexts : List Tag → Text
  | [] => []
  | tag :: tags => innerText tag ++ innerTexts tags

end

def sameAttributes (a b : Attributes) : Bool :=
  a.size == b.size && a.toList.all fun p => b.get? p.1 == some p.2

mutual

/-- Equality of tags; the order of attributes does not count. -/
def same : Tag → Tag → Bool
  | ⟨n, a, v, cs, s⟩, ⟨n', a', v', cs', s'⟩ =>
    n == n' && sameAttributes a a' && v == v' && s == s' && sameAll cs cs'

def sameAll : List Tag → List Tag → Bool
  | [], [] => true
  | t :: ts, t' :: ts' => same t t' && sameAll ts ts'
  | _, _ => false

end

theorem innerTexts_eq_flatMap (tags : List Tag) : innerTexts tags = tags.flatMap innerText := by
  induction tags with
  | nil => rfl
  | cons t ts ih => simp [innerTexts, ih]

end Tag

end MudClient.Markup
