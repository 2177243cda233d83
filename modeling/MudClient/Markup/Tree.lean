import MudClient.Markup.Tag

/-!
# The tags of a sequence of events

* `OpenTag`: a tag whose end has not come yet, with the children read so far
* `Outline`: the finished tags and the open ones, innermost first
* `Outline.step`: one event
* `Tag.ofEvents`: the whole sequence; what is left open is closed at the end

A closing tag ends the nearest open tag of its name and with it everything opened inside; without
such a tag it is dropped.
-/

set_option autoImplicit false

namespace MudClient.Markup

structure OpenTag where
  name : Text
  attributes : Attributes
  children : List Tag

def OpenTag.finish (node : OpenTag) : Tag :=
  .named node.name node.attributes (Tag.valueOf node.children) node.children false

/-- What has been built: finished tags outside all others, and open tags, innermost first. -/
structure Outline where
  roots : List Tag
  stack : List OpenTag

namespace Outline

def start : Outline := ⟨[], []⟩

/-- Adds a finished tag to the innermost open one, or to the roots. -/
def attach (o : Outline) (tag : Tag) : Outline :=
  match o.stack with
  | [] => ⟨o.roots ++ [tag], []⟩
  | node :: outer => ⟨o.roots, { node with children := node.children ++ [tag] } :: outer⟩

def finishOne (o : Outline) : Outline :=
  match o.stack with
  | [] => o
  | node :: outer => attach ⟨o.roots, outer⟩ node.finish

def finishMany : Nat → Outline → Outline
  | 0, o => o
  | n + 1, o => finishMany n o.finishOne

/-- How many tags end with a closing tag of this name: those down to the nearest of the name. -/
def depthOf? (o : Outline) (name : Text) : Option Nat :=
  (o.stack.findIdx? fun node => node.name == name).map (· + 1)

/-- Takes one event, and says if it was a closing tag without a partner. -/
def step (o : Outline) : Event → Outline × List Notice
  | .text content => (o.attach (.text content), [])
  | .selfClosing name attributes => (o.attach (.named name attributes [] [] true), [])
  | .opening name attributes => (⟨o.roots, ⟨name, attributes, []⟩ :: o.stack⟩, [])
  | .closing name =>
    match o.depthOf? name with
    | none => (o, [.strayClosing name])
    | some depth => (o.finishMany depth, [])

def run (o : Outline) : List Event → Outline × List Notice
  | [] => (o, [])
  | event :: events =>
    let first := o.step event
    let others := run first.1 events
    (others.1, first.2 ++ others.2)

/-- Finishes every open tag, and names them from the innermost on. -/
def close (o : Outline) : List Tag × List Notice :=
  ((o.finishMany o.stack.length).roots, o.stack.map fun node => .impliedClosing node.name)

end Outline

/-- The tags of a sequence of events in order, and the notices about it. -/
def Tag.ofEvents (events : List Event) : List Tag × List Notice :=
  let built := Outline.start.run events
  let closed := built.1.close
  (closed.1, built.2 ++ closed.2)

end MudClient.Markup
