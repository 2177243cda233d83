import MudClient.Proofs.Markup.Repair

/-!
# Text inside tags

* `contents`: the text of events
* `contents_repaired`: repairing events neither loses text nor adds any
* `Node.inside`, `Tag.inside`: a node or a tag, and what it holds at any depth
* `Node.Legible`: a node that passes for text holds nothing but runs of text
* `innerText_ofEvents`: a tag of legible nodes has all text that stands inside it
* `innerText_ofEvents_hidden`: text in an element that passes for text can be lost
-/

set_option autoImplicit false

namespace MudClient.Markup

def Event.content : Event → Text
  | .text content => content
  | _ => []

def contents (events : List Event) : Text :=
  events.flatMap Event.content

variable {event : Event} {events more : List Event} {names : List Text} {node : Node} {nodes : List Node}

/-! ## Repair keeps the text -/

theorem contents_append : contents (events ++ more) = contents events ++ contents more :=
  List.flatMap_append

theorem contents_closings (names : List Text) : contents (names.map .closing) = [] := by
  induction names with
  | nil => rfl
  | cons name names ih => exact ih

theorem contents_mend (names : List Text) (event : Event) :
    contents (mend names event) = event.content := by
  cases event with
  | text content => exact List.flatMap_singleton _ _
  | selfClosing name attributes => rfl
  | opening name attributes => rfl
  | closing name =>
    rw [mend]
    by_cases hopen : name ∈ names
    · rw [if_pos hopen, contents_append, contents_closings]
      rfl
    · rw [if_neg hopen]
      rfl

theorem contents_repairFrom (names : List Text) (events : List Event) :
    contents (repairFrom names events) = contents events := by
  induction events generalizing names with
  | nil => exact contents_closings names
  | cons event events ih =>
    have hmore := ih (openAfter names event)
    rw [repairFrom, contents_append, contents_mend, hmore]
    rfl

theorem contents_repaired (events : List Event) : contents (repaired events) = contents events :=
  contents_repairFrom [] events

/-! ## What a node or a tag holds -/

namespace Node

mutual

/-- The node itself and every node in it, in the order of the line. -/
def inside : Node → List Node
  | .text content => [.text content]
  | .selfClosing name attributes => [.selfClosing name attributes]
  | .element name attributes children => .element name attributes children :: insideAll children

def insideAll : List Node → List Node
  | [] => []
  | node :: nodes => inside node ++ insideAll nodes

end

def isRun : Node → Bool
  | .text _ => true
  | _ => false

/-- An element with the name of text runs holds nothing but runs of text. -/
def Legible : Node → Prop
  | .text _ => True
  | .selfClosing _ _ => True
  | .element name _ children => name.lower = Tag.textName → children.all isRun

instance (node : Node) : Decidable node.Legible :=
  match node with
  | .text _ => inferInstanceAs (Decidable True)
  | .selfClosing _ _ => inferInstanceAs (Decidable True)
  | .element name _ children => inferInstanceAs (Decidable (name.lower = Tag.textName → children.all isRun))

end Node

namespace Tag

mutual

def inside : Tag → List Tag
  | ⟨name, attributes, value, children, selfClosing⟩ =>
    ⟨name, attributes, value, children, selfClosing⟩ :: insideAll children

def insideAll : List Tag → List Tag
  | [] => []
  | tag :: tags => inside tag ++ insideAll tags

end

end Tag

mutual

theorem inside_toTag : ∀ node : Node, node.toTag.inside = node.inside.map Node.toTag
  | .text content => rfl
  | .selfClosing name attributes => rfl
  | .element name attributes children => by
    have hchildren := insideAll_toTags children
    rw [Node.toTag, Tag.named, Tag.inside, hchildren, Node.inside, List.map_cons, Node.toTag, Tag.named]

theorem insideAll_toTags : ∀ nodes : List Node,
    Tag.insideAll (Node.toTags nodes) = (Node.insideAll nodes).map Node.toTag
  | [] => rfl
  | node :: nodes => by
    rw [Node.toTags, Tag.insideAll, inside_toTag node, insideAll_toTags nodes, Node.insideAll, List.map_append]

end

/-! ## Inner text -/

theorem exists_texts_of_runs (h : nodes.all Node.isRun) : ∃ texts : List Text, nodes = texts.map .text := by
  induction nodes with
  | nil => exact ⟨[], rfl⟩
  | cons node nodes ih =>
    rw [List.all_cons, Bool.and_eq_true] at h
    obtain ⟨texts, rfl⟩ := ih h.2
    cases node with
    | text content => exact ⟨content :: texts, rfl⟩
    | selfClosing name attributes => exact absurd h.1 (by simp [Node.isRun])
    | element name attributes children => exact absurd h.1 (by simp [Node.isRun])

theorem contents_texts (texts : List Text) : contents (Node.eventsAll (texts.map .text)) = texts.flatten := by
  induction texts with
  | nil => rfl
  | cons content texts ih =>
    rw [List.map_cons, Node.eventsAll, contents_append, ih]
    exact congrArg (· ++ texts.flatten) (List.flatMap_singleton _ _)

theorem valueOf_texts (texts : List Text) : Tag.valueOf (texts.map Tag.text) = texts.flatten := by
  have hall : (texts.map Tag.text).filter Tag.isText = texts.map Tag.text := by
    rw [List.filter_eq_self]
    intro tag htag
    obtain ⟨content, -, rfl⟩ := List.mem_map.1 htag
    rfl
  have hvalues : (texts.map Tag.text).map Tag.value = texts := by
    rw [List.map_map]
    exact List.map_id texts
  unfold Tag.valueOf
  rw [hall]
  cases texts with
  | nil => rfl
  | cons content texts => exact congrArg List.flatten hvalues

/-- The runs of an element give it their text as its value. -/
theorem valueOf_runs (h : nodes.all Node.isRun) :
    Tag.valueOf (Node.toTags nodes) = contents (Node.eventsAll nodes) := by
  obtain ⟨texts, rfl⟩ := exists_texts_of_runs h
  rw [Node.toTags_eq_map, List.map_map, contents_texts]
  exact valueOf_texts texts

mutual

theorem innerText_toTag : ∀ node : Node, (∀ inner ∈ node.inside, inner.Legible) →
    node.toTag.innerText = contents node.events
  | .text content, _ => by
    have hcontents : contents (Node.text content).events = content := List.flatMap_singleton _ _
    rw [hcontents]
    rfl
  | .selfClosing name attributes, _ => by
    have hvalue : ∀ name : Text, (⟨name, attributes, [], [], true⟩ : Tag).innerText = [] := by
      intro name
      unfold Tag.innerText
      split <;> rfl
    exact hvalue name.lower
  | .element name attributes children, h => by
    have hself : (Node.element name attributes children).Legible := h _ List.mem_cons_self
    have hinside : ∀ inner ∈ Node.insideAll children, inner.Legible :=
      fun inner hinner => h inner (List.mem_cons_of_mem _ hinner)
    have hcontents : contents (Node.element name attributes children).events =
        contents (Node.eventsAll children) := by
      rw [Node.events, contents, List.flatMap_cons, ← contents, contents_append]
      exact List.append_nil _
    rw [hcontents, Node.toTag, Tag.named, Tag.innerText]
    by_cases htext : name.lower = Tag.textName
    · rw [if_pos htext]
      exact valueOf_runs (hself htext)
    · rw [if_neg htext]
      cases children with
      | nil => rfl
      | cons child children => exact innerTexts_toTags (child :: children) hinside

theorem innerTexts_toTags : ∀ nodes : List Node, (∀ inner ∈ Node.insideAll nodes, inner.Legible) →
    Tag.innerTexts (Node.toTags nodes) = contents (Node.eventsAll nodes)
  | [], _ => rfl
  | node :: nodes, h => by
    have hnode := innerText_toTag node fun inner hinner => h inner (List.mem_append_left _ hinner)
    have hnodes := innerTexts_toTags nodes fun inner hinner => h inner (List.mem_append_right _ hinner)
    rw [Node.toTags, Tag.innerTexts, hnode, hnodes, Node.eventsAll, contents_append]

end

/-- The tags of events are the nodes of their forest, at every depth. Each has the text of its own events
as its inner text if what it holds is legible; together they have the text of all events. -/
theorem innerText_ofEvents (events : List Event) :
    ∃ forest : List Node, Node.eventsAll forest = repaired events ∧
      (Tag.ofEvents events).1 = forest.map Node.toTag ∧
      Tag.insideAll (Tag.ofEvents events).1 = (Node.insideAll forest).map Node.toTag ∧
      (∀ node ∈ Node.insideAll forest, (∀ inner ∈ node.inside, inner.Legible) →
        node.toTag.innerText = contents node.events) ∧
      ((∀ node ∈ Node.insideAll forest, node.Legible) →
        (Tag.ofEvents events).1.flatMap Tag.innerText = contents events) := by
  obtain ⟨forest, hforest, htags⟩ := exists_forest events
  have hroots : (Tag.ofEvents events).1 = Node.toTags forest := by
    rw [htags, Node.toTags_eq_map]
  refine ⟨forest, hforest, ?_, ?_, ?_, ?_⟩
  · rw [hroots, Node.toTags_eq_map]
  · rw [hroots, insideAll_toTags]
  · intro node _ hlegible
    exact innerText_toTag node hlegible
  · intro hlegible
    have htexts := innerTexts_toTags forest hlegible
    rw [hroots, ← Tag.innerTexts_eq_flatMap, htexts, hforest, contents_repaired]

/-- The exits of a room, with a closing tag too many and one that is missing. -/
theorem innerText_ofEvents_exits :
    let d : Text := ['d']
    let events : List Event := [.opening "component".toList .empty, .text "Paths: ".toList, .opening d .empty,
      .text "south".toList, .closing d, .text ", ".toList, .closing ['b'], .opening "Text".toList .empty,
      .text "west".toList, .closing "component".toList, .text ".".toList]
    (Tag.ofEvents events).1.flatMap Tag.innerText = "Paths: south, west.".toList := by
  intro d events
  obtain ⟨forest, hforest, -, -, -, htexts⟩ := innerText_ofEvents events
  have hnodes : forest = [.element "component".toList .empty [.text "Paths: ".toList,
      .element d .empty [.text "south".toList], .text ", ".toList,
      .element "Text".toList .empty [.text "west".toList]], .text ".".toList] :=
    eventsAll_injective hforest
  have hlegible : ∀ node ∈ Node.insideAll forest, node.Legible := by
    rw [hnodes]
    decide +kernel
  have hcontents : contents events = "Paths: south, west.".toList := by decide +kernel
  rw [htexts hlegible, hcontents]

/-- Text in another element of an element with the name of text runs is not part of its inner text. -/
theorem innerText_ofEvents_hidden :
    let events : List Event := [.opening Tag.textName .empty, .text ['a'], .opening ['b'] .empty, .text ['c'],
      .closing ['b'], .closing Tag.textName]
    contents events = ['a', 'c'] ∧ (Tag.ofEvents events).1.flatMap Tag.innerText = ['a'] := by
  decide +kernel

end MudClient.Markup
