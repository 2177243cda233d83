import MudClient.Markup.Tag
import MudClient.Stream.RoomTitle
import MudClient.Text.CharacterReference

/-!
# Events of the game

* `EventKind`, `GameEvent`: what a line of the game's stream tells, and the variables it sets
* `GameEvent.ofTag`: the event that one tag makes
* `GameEvent.ofTags`: the events of a line
* `Receiver`, `Receiver.accept`: how events are passed on
-/

set_option autoImplicit false

namespace MudClient.Stream

open Markup (Tag)
open Text (TooManyDigits)

inductive EventKind
  | text | prompt | room | compass | nav | streamWindow
deriving DecidableEq, Repr

def EventKind.name : EventKind → String
  | text => "text"
  | prompt => "prompt"
  | room => "room"
  | compass => "compass"
  | nav => "nav"
  | streamWindow => "streamwindow"

/-- Something that happens in the game: the tags that tell of it, and the variables it sets, each once. -/
structure GameEvent where
  kind : EventKind
  tags : List Tag
  «variables» : List (Text × Text)

def roomComponents : List (Text × Text) :=
  [("room desc", "roomdesc"), ("room objs", "roomobjs"), ("room players", "roomplayers"),
    ("room exits", "roomexits")].map fun p => (p.1.toList, p.2.toList)

def directions (children : List Tag) : List Text :=
  children.filterMap fun child =>
    if child.name = "dir".toList then child.attribute? "value".toList else none

def isBlankText (tag : Tag) : Bool :=
  tag.isText && Text.allBlank tag.value

namespace GameEvent

/-- A prompt sets its text, with the character references in it replaced, and the time of the game
where it has one. -/
def ofPrompt (tag : Tag) : Except TooManyDigits GameEvent := do
  let shown ← CharacterReference.decode tag.value
  let time := (tag.attribute? "time".toList).toList.map fun t => ("gametime".toList, t)
  return ⟨.prompt, [tag], ("prompt".toList, Text.trim shown) :: time⟩

/-- The event that one tag makes; other tags are plain output. -/
def ofTag (tag : Tag) : Except TooManyDigits (Option GameEvent) :=
  if tag.name = "component".toList then
    .ok ((roomComponents.lookup (tag.attributeOrEmpty "id".toList)).map fun key =>
      ⟨.room, [tag], [(key, Text.trim tag.innerText)]⟩)
  else if tag.name = "prompt".toList then (ofPrompt tag).map some
  else if tag.name = "compass".toList then
    .ok (some ⟨.compass, [tag],
      [("roomexitdirs".toList, Text.join [','] (directions tag.children))]⟩)
  else if tag.name = "nav".toList then .ok (some ⟨.nav, [tag], []⟩)
  else if tag.name = "streamwindow".toList && tag.attribute? "id".toList = some "room".toList then
    .ok (some ⟨.streamWindow, [tag],
      [("roomtitle".toList, roomTitle (tag.attributeOrEmpty "subtitle".toList))]⟩)
  else .ok none

/-- The events of tags, with an event for the plain tags in the place of the first of them. -/
def placed (plain : GameEvent) : List (Option GameEvent) → List GameEvent
  | [] => []
  | some event :: rest => event :: placed plain rest
  | none :: rest => plain :: rest.filterMap id

/-- The events of a line. All plain tags together make one event, unless they are blank text only. -/
def ofTags (tags : List Tag) : Except TooManyDigits (List GameEvent) := do
  let events ← tags.mapM ofTag
  let plain := (tags.zip events).filterMap fun p => if p.2.isNone then some p.1 else none
  if plain.all isBlankText then return events.filterMap id
  else return placed ⟨.text, plain, []⟩ events

end GameEvent

/-! ## Passing events on -/

/-- Where events go: variables are written, and a handler is told, which may fail. -/
structure Receiver (σ ε : Type) where
  write : Text → Text → σ → σ
  handle : GameEvent → σ → Option ε × σ

variable {σ ε : Type}

def Receiver.writeAll (r : Receiver σ ε) (event : GameEvent) (s : σ) : σ :=
  event.variables.foldl (fun s p => r.write p.1 p.2 s) s

/-- Passes events on in order; the variables of an event are written before its handler is told, and a
handler that fails is the last one. -/
def Receiver.accept (r : Receiver σ ε) : List GameEvent → σ → Option ε × σ
  | [], s => (none, s)
  | event :: events, s =>
    match r.handle event (r.writeAll event s) with
    | (some failure, s) => (some failure, s)
    | (none, s) => r.accept events s

/-- What every write and every handler keeps is kept while events are passed on. -/
theorem Receiver.accept_induction {r : Receiver σ ε} {P : σ → Prop}
    (hwrite : ∀ key value s, P s → P (r.write key value s)) (hhandle : ∀ event s, P s → P (r.handle event s).2)
    (events : List GameEvent) {s : σ} (h : P s) : P (r.accept events s).2 := by
  have hwriteAll : ∀ (ps : List (Text × Text)) s, P s → P (ps.foldl (fun s p => r.write p.1 p.2 s) s) := by
    intro ps
    induction ps with
    | nil => exact fun s h => h
    | cons p rest ih => exact fun s h => ih _ (hwrite p.1 p.2 s h)
  induction events generalizing s with
  | nil => exact h
  | cons event events ih =>
    have hhandled := hhandle event _ (hwriteAll event.variables s h)
    rw [accept, writeAll]
    split
    · next heq =>
      rw [heq] at hhandled
      exact hhandled
    · next heq =>
      rw [heq] at hhandled
      exact ih hhandled

end MudClient.Stream
