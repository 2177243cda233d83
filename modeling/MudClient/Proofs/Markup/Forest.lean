import Mathlib.Logic.ExistsUnique
import MudClient.Markup.Tree

/-!
# Forests and their events

* `Node`: a run of text, a self-closing tag, or an element with what stands inside it
* `Node.events`, `Node.eventsAll`: nodes as events, in the order of the line
* `Node.toTag`: the tag that a node is
* `Balanced`: every tag is closed, the one opened last first
* `balanced_eventsAll`: the events of a forest are balanced
* `eventsAll_injective`: they determine the forest
-/

set_option autoImplicit false

namespace MudClient.Markup

inductive Node
  | text (content : Text)
  | selfClosing (name : Text) (attributes : Attributes)
  | element (name : Text) (attributes : Attributes) (children : List Node)

namespace Node

mutual

def events : Node → List Event
  | .text content => [.text content]
  | .selfClosing name attributes => [.selfClosing name attributes]
  | .element name attributes children =>
    .opening name attributes :: (eventsAll children ++ [.closing name])

def eventsAll : List Node → List Event
  | [] => []
  | node :: nodes => events node ++ eventsAll nodes

end

mutual

/-- An element has the value that its children give it. -/
def toTag : Node → Tag
  | .text content => .text content
  | .selfClosing name attributes => .named name attributes [] [] true
  | .element name attributes children =>
    .named name attributes (Tag.valueOf (toTags children)) (toTags children) false

def toTags : List Node → List Tag
  | [] => []
  | node :: nodes => toTag node :: toTags nodes

end

theorem toTags_eq_map (nodes : List Node) : toTags nodes = nodes.map toTag := by
  induction nodes with
  | nil => rfl
  | cons node nodes ih => rw [toTags, ih, List.map_cons]

theorem eventsAll_append (nodes more : List Node) :
    eventsAll (nodes ++ more) = eventsAll nodes ++ eventsAll more := by
  induction nodes with
  | nil => rfl
  | cons node nodes ih => rw [List.cons_append, eventsAll, ih, eventsAll, List.append_assoc]

theorem eventsAll_singleton (node : Node) : eventsAll [node] = node.events := by
  rw [eventsAll, eventsAll, List.append_nil]

end Node

/-! ## Balance -/

/-- The events close the tags that are open, innermost first, and every tag that they open. -/
def Balanced : List Text → List Event → Prop
  | names, [] => names = []
  | names, .text _ :: events => Balanced names events
  | names, .selfClosing _ _ :: events => Balanced names events
  | names, .opening name _ :: events => Balanced (name :: names) events
  | [], .closing _ :: _ => False
  | innermost :: names, .closing name :: events => name = innermost ∧ Balanced names events

mutual

theorem balanced_events : ∀ (node : Node) (names : List Text) (rest : List Event),
    Balanced names (node.events ++ rest) ↔ Balanced names rest
  | .text content, names, rest => by simp [Node.events, Balanced]
  | .selfClosing name attributes, names, rest => by simp [Node.events, Balanced]
  | .element name attributes children, names, rest => by
    have h := balanced_eventsAll children (name :: names) (.closing name :: rest)
    rw [Node.events, List.cons_append, List.append_assoc, Balanced]
    simpa [Balanced] using h

theorem balanced_eventsAll : ∀ (nodes : List Node) (names : List Text) (rest : List Event),
    Balanced names (Node.eventsAll nodes ++ rest) ↔ Balanced names rest
  | [], names, rest => Iff.rfl
  | node :: nodes, names, rest => by
    rw [Node.eventsAll, List.append_assoc, balanced_events node, balanced_eventsAll nodes]

end

/-! ## Events determine their forest -/

/-- Nothing follows, or a closing tag: what stands behind the last child of an element. -/
def Closes : List Event → Prop
  | [] => True
  | .closing _ :: _ => True
  | _ => False

theorem not_closes_events (node : Node) (rest : List Event) : ¬Closes (node.events ++ rest) := by
  cases node <;> simp [Node.events, Closes]

mutual

theorem events_append_injective : ∀ (node node' : Node) (rest rest' : List Event),
    node.events ++ rest = node'.events ++ rest' → node = node' ∧ rest = rest'
  | .text content, node', rest, rest', h => by
    cases node' <;> simp_all [Node.events]
  | .selfClosing name attributes, node', rest, rest', h => by
    cases node' <;> simp_all [Node.events]
  | .element name attributes children, node', rest, rest', h => by
    cases node' with
    | text content => simp [Node.events] at h
    | selfClosing name' attributes' => simp [Node.events] at h
    | element name' attributes' children' =>
      simp only [Node.events, List.cons_append, List.append_assoc, List.cons.injEq,
        Event.opening.injEq, List.nil_append] at h
      obtain ⟨⟨rfl, rfl⟩, h⟩ := h
      obtain ⟨rfl, hrest⟩ := eventsAll_append_injective children children'
        (.closing name :: rest) (.closing name :: rest') trivial trivial h
      exact ⟨rfl, (List.cons.inj hrest).2⟩

theorem eventsAll_append_injective : ∀ (nodes nodes' : List Node) (rest rest' : List Event),
    Closes rest → Closes rest' → Node.eventsAll nodes ++ rest = Node.eventsAll nodes' ++ rest' →
      nodes = nodes' ∧ rest = rest'
  | [], [], rest, rest', _, _, h => ⟨rfl, h⟩
  | [], node' :: nodes', rest, rest', hc, _, h => by
    have hrest : rest = node'.events ++ (Node.eventsAll nodes' ++ rest') := by
      rw [← List.append_assoc]
      exact h
    exact absurd (hrest ▸ hc) (not_closes_events node' _)
  | node :: nodes, [], rest, rest', _, hc', h => by
    have hrest : node.events ++ (Node.eventsAll nodes ++ rest) = rest' := by
      rw [← List.append_assoc]
      exact h
    exact absurd (hrest ▸ hc') (not_closes_events node _)
  | node :: nodes, node' :: nodes', rest, rest', hc, hc', h => by
    rw [Node.eventsAll, Node.eventsAll, List.append_assoc, List.append_assoc] at h
    obtain ⟨hnode, hmore⟩ := events_append_injective node node' _ _ h
    obtain ⟨hnodes, hrest⟩ := eventsAll_append_injective nodes nodes' rest rest' hc hc' hmore
    exact ⟨by rw [hnode, hnodes], hrest⟩

end

theorem eventsAll_injective : Function.Injective Node.eventsAll := by
  intro nodes nodes' h
  refine (eventsAll_append_injective nodes nodes' [] [] trivial trivial ?_).1
  rw [h]

end MudClient.Markup
