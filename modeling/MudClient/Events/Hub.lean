import MudClient.OrderedMap
import MudClient.Text.Basic

/-!
# The event hub

* `Hub`: the names of the handlers that are subscribed to each key
* `Hub.subscribe`, `Hub.unsubscribe`: one more or one less subscription
* `Hub.subscribers`: the handlers to be called for a key, in order
-/

set_option autoImplicit false

namespace MudClient.Events

/-- The subscriptions to each key, oldest first. A handler is known by its name and may be subscribed
more than once. -/
structure Hub where
  lists : OrderedMap Text (List Text)

namespace Hub

def empty : Hub := ⟨.empty⟩

/-- The handlers subscribed to a key, oldest subscription first. -/
def subscribers (h : Hub) (key : Text) : List Text :=
  (h.lists.get? key).getD []

/-- One more subscription, which comes last. -/
def subscribe (h : Hub) (key name : Text) : Hub :=
  ⟨h.lists.insert key (h.subscribers key ++ [name])⟩

/-- The oldest subscription of a handler to a key is taken away, if there is one. -/
def unsubscribe (h : Hub) (key name : Text) : Hub :=
  if name ∈ h.subscribers key then ⟨h.lists.insert key ((h.subscribers key).erase name)⟩ else h

end Hub

end MudClient.Events
