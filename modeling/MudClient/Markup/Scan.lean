import MudClient.Markup.TagReading

/-!
# The events of a line

* `consText`: a character in front of the events that follow it
* `Scan`: the events of a line, and what was noticed on the way
* `scan`: every tag that can be read is an event, all else is text
-/

set_option autoImplicit false

namespace MudClient.Markup

/-- Puts a character before events: into a run of text that starts there, or as a run of its own. -/
def consText (c : Char) : List Event → List Event
  | .text content :: events => .text (c :: content) :: events
  | events => .text [c] :: events

structure Scan where
  events : List Event
  notices : List Notice

/-- Reads a line from the left. At each `<` a tag is tried; when none can be read there, the bracket
is text and reading goes on right after it. -/
def scan (line : Text) : Scan :=
  match line with
  | [] => ⟨[], []⟩
  | c :: rest =>
    if c = '<' then
      match h : (readTag (c :: rest)).found with
      | some (event, after) =>
        have : after.length < rest.length + 1 := length_of_readTag h
        let further := scan after
        ⟨event :: further.events, (readTag (c :: rest)).notices ++ further.notices⟩
      | none =>
        let further := scan rest
        ⟨consText c further.events, (readTag (c :: rest)).notices ++ further.notices⟩
    else
      let further := scan rest
      ⟨consText c further.events, further.notices⟩
termination_by line.length

/-! ## One step of a scan -/

theorem scan_nil : scan [] = ⟨[], []⟩ := by
  rw [scan]

theorem scan_char {c : Char} {rest : Text} (h : c ≠ '<') :
    scan (c :: rest) = ⟨consText c (scan rest).events, (scan rest).notices⟩ := by
  rw [scan, if_neg h]

theorem scan_tag {rest after : Text} {event : Event}
    (h : (readTag ('<' :: rest)).found = some (event, after)) :
    scan ('<' :: rest) =
      ⟨event :: (scan after).events, (readTag ('<' :: rest)).notices ++ (scan after).notices⟩ := by
  rw [scan, if_pos rfl]
  split
  · next e a he =>
    rw [h] at he
    simp only [Option.some.injEq, Prod.mk.injEq] at he
    rw [he.1, he.2]
  · next he => simp [h] at he

theorem scan_refused {rest : Text} (h : (readTag ('<' :: rest)).found = none) :
    scan ('<' :: rest) =
      ⟨consText '<' (scan rest).events, (readTag ('<' :: rest)).notices ++ (scan rest).notices⟩ := by
  rw [scan, if_pos rfl]
  split
  · next he => simp [h] at he
  · rfl

end MudClient.Markup
