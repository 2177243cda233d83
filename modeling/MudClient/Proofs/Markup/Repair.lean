import MudClient.Proofs.Markup.Forest

/-!
# Building tags is parsing repaired events

* `openAfter`, `mend`, `strayOf`: what one event does to the open names, what becomes of it, and the name
  of a closing tag that is dropped
* `repaired`, `strays`, `leftOpen`: the same of a whole sequence
* `Sketch`: an outline whose finished parts are still nodes
* `Sketch.exists_step`, `Sketch.exists_run`: the builder keeps a sketch of the repaired events so far
* `ofEvents_eq_forest`: the tags are the one forest of the repaired events
-/

set_option autoImplicit false

namespace MudClient.Markup

/-! ## Repair -/

/-- The names that are open after an event, innermost first. -/
def openAfter (names : List Text) : Event → List Text
  | .opening name _ => name :: names
  | .closing name => if name ∈ names then (names.dropWhile (· ≠ name)).tail else names
  | _ => names

/-- A closing tag closes everything inside its partner first; without a partner it goes. -/
def mend (names : List Text) : Event → List Event
  | .closing name =>
    if name ∈ names then (names.takeWhile (· ≠ name)).map .closing ++ [.closing name] else []
  | event => [event]

def strayOf (names : List Text) : Event → List Text
  | .closing name => if name ∈ names then [] else [name]
  | _ => []

/-- The events with every tag closed in time, those that are still open at the end included. -/
def repairFrom (names : List Text) : List Event → List Event
  | [] => names.map .closing
  | event :: events => mend names event ++ repairFrom (openAfter names event) events

def repaired (events : List Event) : List Event :=
  repairFrom [] events

/-- The names of the closing tags that are dropped, in order. -/
def straysFrom (names : List Text) : List Event → List Text
  | [] => []
  | event :: events => strayOf names event ++ straysFrom (openAfter names event) events

def leftOpen (events : List Event) : List Text :=
  events.foldl openAfter []

/-! ## Sketches -/

structure OpenNode where
  name : Text
  attributes : Attributes
  children : List Node

def OpenNode.events (node : OpenNode) : List Event :=
  .opening node.name node.attributes :: Node.eventsAll node.children

def OpenNode.openTag (node : OpenNode) : OpenTag :=
  ⟨node.name, node.attributes, node.children.map Node.toTag⟩

/-- Nodes outside all open tags, and open tags, innermost first. -/
structure Sketch where
  roots : List Node
  stack : List OpenNode

namespace Sketch

def events (s : Sketch) : List Event :=
  Node.eventsAll s.roots ++ (s.stack.reverse.map OpenNode.events).flatten

def names (s : Sketch) : List Text :=
  s.stack.map OpenNode.name

def outline (s : Sketch) : Outline :=
  ⟨s.roots.map Node.toTag, s.stack.map OpenNode.openTag⟩

def attach (s : Sketch) (node : Node) : Sketch :=
  match s.stack with
  | [] => ⟨s.roots ++ [node], []⟩
  | innermost :: outer =>
    ⟨s.roots, { innermost with children := innermost.children ++ [node] } :: outer⟩

def finishOne (s : Sketch) : Sketch :=
  match s.stack with
  | [] => s
  | node :: outer => attach ⟨s.roots, outer⟩ (.element node.name node.attributes node.children)

def finishMany : Nat → Sketch → Sketch
  | 0, s => s
  | n + 1, s => finishMany n s.finishOne

variable {s : Sketch} {node : Node} {name : Text} {event : Event} {n : Nat}

/-! ## Attaching and finishing -/

theorem events_attach : (s.attach node).events = s.events ++ node.events := by
  obtain ⟨roots, stack⟩ := s
  cases stack with
  | nil => simp [attach, events, Node.eventsAll_append, Node.eventsAll_singleton]
  | cons innermost outer =>
    simp [attach, events, OpenNode.events, Node.eventsAll_append, Node.eventsAll_singleton]

theorem names_attach : (s.attach node).names = s.names := by
  obtain ⟨roots, stack⟩ := s
  cases stack <;> rfl

theorem outline_attach : (s.attach node).outline = s.outline.attach node.toTag := by
  obtain ⟨roots, stack⟩ := s
  cases stack with
  | nil => simp [attach, outline, Outline.attach]
  | cons innermost outer => simp [attach, outline, Outline.attach, OpenNode.openTag]

theorem names_finishOne : s.finishOne.names = s.names.tail := by
  obtain ⟨roots, stack⟩ := s
  cases stack with
  | nil => rfl
  | cons node outer => exact names_attach

theorem outline_finishOne : s.finishOne.outline = s.outline.finishOne := by
  obtain ⟨roots, stack⟩ := s
  cases stack with
  | nil => rfl
  | cons node outer =>
    have h : (Node.element node.name node.attributes node.children).toTag = node.openTag.finish := by
      rw [Node.toTag, Node.toTags_eq_map]
      rfl
    simp only [finishOne, outline_attach, h]
    rfl

theorem events_finishOne {names : List Text} (h : s.names = name :: names) :
    s.finishOne.events = s.events ++ [.closing name] := by
  obtain ⟨roots, stack⟩ := s
  cases stack with
  | nil => simp [Sketch.names] at h
  | cons node outer =>
    obtain ⟨rfl, -⟩ := List.cons.inj h
    rw [finishOne, events_attach]
    simp [events, OpenNode.events, Node.events]

theorem names_finishMany : (finishMany n s).names = s.names.drop n := by
  induction n generalizing s with
  | zero => rfl
  | succ n ih => rw [finishMany, ih, names_finishOne, List.drop_tail]

theorem outline_finishMany : (finishMany n s).outline = Outline.finishMany n s.outline := by
  induction n generalizing s with
  | zero => rfl
  | succ n ih => rw [finishMany, ih, outline_finishOne, Outline.finishMany]

theorem events_finishMany (h : n ≤ s.names.length) :
    (finishMany n s).events = s.events ++ (s.names.take n).map .closing := by
  induction n generalizing s with
  | zero => simp [finishMany]
  | succ n ih =>
    cases hs : s.names with
    | nil => simp [hs] at h
    | cons name names =>
      have htail : s.finishOne.names = names := by rw [names_finishOne, hs, List.tail_cons]
      have hle : n ≤ s.finishOne.names.length := by
        rw [htail]
        simpa [hs] using h
      rw [finishMany, ih hle, events_finishOne hs, htail]
      simp

/-! ## One event -/

theorem exists_depth {names : List Text} (h : name ∈ names) :
    ∃ i, names.findIdx? (· == name) = some i ∧ i < names.length ∧
      names.take (i + 1) = names.takeWhile (· ≠ name) ++ [name] ∧
      names.drop (i + 1) = (names.dropWhile (· ≠ name)).tail := by
  induction names with
  | nil => simp at h
  | cons innermost names ih =>
    by_cases he : innermost = name
    · subst he
      exact ⟨0, by simp [List.findIdx?_cons], by simp, by simp, by simp⟩
    · obtain ⟨i, hfind, hlt, htake, hdrop⟩ := ih (List.mem_of_ne_of_mem (fun e => he e.symm) h)
      refine ⟨i + 1, by simp [List.findIdx?_cons, he, hfind], by simpa using hlt, ?_, ?_⟩
      · rw [List.take_succ_cons, htake, List.takeWhile_cons_of_pos (by simpa using he), List.cons_append]
      · rw [List.drop_succ_cons, hdrop, List.dropWhile_cons_of_pos (by simpa using he)]

theorem depthOf?_outline :
    s.outline.depthOf? name = (s.names.findIdx? (· == name)).map (· + 1) := by
  simp only [Outline.depthOf?, outline, names, List.findIdx?_map]
  rfl

/-- The builder's step on the outline of a sketch is the outline of a sketch again, and the events in it
grow by what becomes of the event. -/
theorem exists_step (s : Sketch) (event : Event) :
    ∃ s' : Sketch, s'.outline = (s.outline.step event).1 ∧ s'.names = openAfter s.names event ∧
      s'.events = s.events ++ mend s.names event ∧
      (s.outline.step event).2 = (strayOf s.names event).map .strayClosing := by
  cases event with
  | text content =>
    exact ⟨s.attach (.text content), outline_attach, names_attach, events_attach, rfl⟩
  | selfClosing name attributes =>
    exact ⟨s.attach (.selfClosing name attributes), outline_attach, names_attach, events_attach, rfl⟩
  | opening name attributes =>
    refine ⟨⟨s.roots, ⟨name, attributes, []⟩ :: s.stack⟩, rfl, rfl, ?_, rfl⟩
    simp [events, OpenNode.events, Node.eventsAll, mend]
  | closing name =>
    by_cases h : name ∈ s.names
    · obtain ⟨i, hfind, hlt, htake, hdrop⟩ := exists_depth h
      refine ⟨finishMany (i + 1) s, ?_, ?_, ?_, ?_⟩
      · simp [Outline.step, depthOf?_outline, hfind, outline_finishMany]
      · rw [names_finishMany, hdrop, openAfter, if_pos h]
      · rw [events_finishMany hlt, htake, List.map_append, mend, if_pos h]
        rfl
      · simp [Outline.step, depthOf?_outline, hfind, strayOf, h]
    · have hfind : s.names.findIdx? (· == name) = none := by
        rw [List.findIdx?_eq_none_iff]
        intro x hx
        simpa using fun e : x = name => h (e ▸ hx)
      refine ⟨s, ?_, ?_, ?_, ?_⟩
      · simp [Outline.step, depthOf?_outline, hfind]
      · rw [openAfter, if_neg h]
      · rw [mend, if_neg h, List.append_nil]
      · simp [Outline.step, depthOf?_outline, hfind, strayOf, h]

/-! ## A whole run -/

theorem exists_run (s : Sketch) (es : List Event) :
    ∃ s' : Sketch, s'.outline = (s.outline.run es).1 ∧ s'.names = es.foldl openAfter s.names ∧
      s'.events ++ s'.names.map .closing = s.events ++ repairFrom s.names es ∧
      (s.outline.run es).2 = (straysFrom s.names es).map .strayClosing := by
  -- The sketch carries the induction: its events are the repaired ones so far, the closing tags apart
  -- that its open names still call for.
  induction es generalizing s with
  | nil => exact ⟨s, rfl, rfl, rfl, rfl⟩
  | cons event es ih =>
    obtain ⟨s₁, houtline, hnames, hevents, hnotices⟩ := exists_step s event
    obtain ⟨s₂, houtline', hnames', hevents', hnotices'⟩ := ih s₁
    refine ⟨s₂, ?_, ?_, ?_, ?_⟩
    · rw [houtline', houtline]
      rfl
    · rw [hnames', hnames, List.foldl_cons]
    · rw [hevents', hevents, hnames, repairFrom, List.append_assoc]
    · rw [Outline.run, straysFrom, List.map_append, ← hnotices, ← hnames, ← hnotices', ← houtline]

end Sketch

/-! ## The tags of events -/

theorem close_outline (s : Sketch) :
    s.outline.close = ((s.finishMany s.names.length).roots.map Node.toTag,
      s.names.map .impliedClosing) := by
  have hlen : s.outline.stack.length = s.names.length := by
    simp [Sketch.outline, Sketch.names]
  rw [Outline.close, hlen, ← Sketch.outline_finishMany]
  simp [Sketch.outline, Sketch.names, OpenNode.openTag]

theorem eventsAll_roots (s : Sketch) :
    Node.eventsAll (s.finishMany s.names.length).roots = s.events ++ s.names.map .closing := by
  have hnames : (s.finishMany s.names.length).names = [] := by
    rw [Sketch.names_finishMany, List.drop_length]
  have hstack : (s.finishMany s.names.length).stack = [] := List.map_eq_nil_iff.1 hnames
  have hevents : (s.finishMany s.names.length).events = s.events ++ s.names.map .closing := by
    rw [Sketch.events_finishMany (Nat.le_refl _), List.take_length]
  simpa [Sketch.events, hstack] using hevents

theorem exists_forest (events : List Event) :
    ∃ forest : List Node, Node.eventsAll forest = repaired events ∧
      Tag.ofEvents events = (forest.map Node.toTag,
        (straysFrom [] events).map .strayClosing ++ (leftOpen events).map .impliedClosing) := by
  obtain ⟨s, houtline, hnames, hevents, hnotices⟩ := Sketch.exists_run ⟨[], []⟩ events
  have hstart : Sketch.outline ⟨[], []⟩ = Outline.start := rfl
  rw [hstart] at houtline hnotices
  refine ⟨(s.finishMany s.names.length).roots, ?_, ?_⟩
  · rw [eventsAll_roots, hevents]
    rfl
  · simp only [Tag.ofEvents, ← houtline, close_outline, hnotices, hnames]
    rfl

/-- A self-closing tag stands for itself, whatever follows it. -/
theorem ofEvents_selfClosing (name : Text) (attributes : Attributes) (events : List Event) :
    (Tag.ofEvents (.selfClosing name attributes :: events)).1 =
      .named name attributes [] [] true :: (Tag.ofEvents events).1 := by
  obtain ⟨forest, hforest, htags⟩ := exists_forest events
  obtain ⟨whole, hwhole, htagsWhole⟩ := exists_forest (.selfClosing name attributes :: events)
  have hrepaired : repaired (.selfClosing name attributes :: events) =
      .selfClosing name attributes :: repaired events := rfl
  have hevents : Node.eventsAll (.selfClosing name attributes :: forest) =
      .selfClosing name attributes :: repaired events := by
    rw [Node.eventsAll, hforest, Node.events, List.singleton_append]
  have hsame : whole = .selfClosing name attributes :: forest :=
    eventsAll_injective (by rw [hwhole, hrepaired, hevents])
  rw [htagsWhole, htags, hsame, List.map_cons, Node.toTag]

/-- The tags of events are the forest of the repaired events, which are balanced and have no other
forest. Every closing tag that was dropped is noticed, and every tag that is open at the end, innermost
first, and nothing else is. -/
theorem ofEvents_eq_forest (events : List Event) :
    Balanced [] (repaired events) ∧
    (∃! forest : List Node, Node.eventsAll forest = repaired events) ∧
    (∀ forest : List Node, Node.eventsAll forest = repaired events →
      (Tag.ofEvents events).1 = forest.map Node.toTag) ∧
    (Tag.ofEvents events).2 =
      (straysFrom [] events).map .strayClosing ++ (leftOpen events).map .impliedClosing := by
  obtain ⟨forest, hforest, htags⟩ := exists_forest events
  refine ⟨?_, ⟨forest, hforest, fun other h => eventsAll_injective (h.trans hforest.symm)⟩, ?_, ?_⟩
  · have h := (balanced_eventsAll forest [] []).2 rfl
    rwa [List.append_nil, hforest] at h
  · intro other h
    rw [htags, eventsAll_injective (h.trans hforest.symm)]
  · rw [htags]

end MudClient.Markup
