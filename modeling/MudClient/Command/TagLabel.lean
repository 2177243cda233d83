import MudClient.Console.Table
import MudClient.Markup.Tag
import MudClient.Text.Quoted

/-!
# Tags as labels

* `tagLabel`: one line about a tag
* `tagTree`: a tag and its children as a tree of labels
-/

set_option autoImplicit false

namespace MudClient.Command

open Console (LabelTree escape)
open Markup (Tag)

def styled (style : String) (t : Text) : Text :=
  ("[" ++ style ++ "]").toList ++ t ++ ("[/" ++ style ++ "]").toList

def shown (t : Text) : Text :=
  escape t.quoted

/-- One line about a tag: its name, its attributes, a slash if it closes itself, and its value. -/
def tagLabel (tag : Tag) : Text :=
  if tag.isText then styled "white" "text".toList ++ ' ' :: shown tag.value
  else
    let attributes := tag.attributes.toList.map fun p =>
      ' ' :: styled "magenta" (escape p.1) ++ '=' :: shown p.2
    let slash := if tag.selfClosing then ' ' :: styled "dim" ['/'] else []
    styled "cyan" tag.name ++ attributes.flatten ++ slash ++ ' ' :: styled "green" (shown tag.value)

mutual

def tagTree : Tag → LabelTree
  | ⟨name, attributes, value, children, selfClosing⟩ =>
    .node (tagLabel ⟨name, attributes, value, children, selfClosing⟩) (tagTrees children)

def tagTrees : List Tag → List LabelTree
  | [] => []
  | tag :: more => tagTree tag :: tagTrees more

end

end MudClient.Command
