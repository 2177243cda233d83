import MudClient.Events.Hub

/-!
# Steps on a hub

* `Step`: what is done on a hub, by the client or by a handler that is called
* `Handler`: the steps that a handler takes, and whether it fails at the end
* `Board`: a hub with the calls made so far, the log, and what else the steps work on
* `Conduct`: how handlers behave, and what the client's own actions do
* `Conduct.run`: one step with everything that follows from it

A post calls the handlers that are subscribed when it begins. A handler may post in turn, so that a run
is bounded by how deep posts may nest.
-/

set_option autoImplicit false

namespace MudClient.Events

abbrev Payload := List (Text × Text)

/-- What is done on a hub. -/
inductive Step (α : Type)
  | subscribe (key name : Text)
  | unsubscribe (key name : Text)
  | post (key : Text) (data : Payload)
  /-- Something of the client's own. -/
  | act (action : α)

/-- What a handler does when it is called. -/
structure Handler (α ε : Type) where
  steps : List (Step α)
  failure : Option ε

structure Call where
  name : Text
  key : Text
  data : Payload
deriving DecidableEq, Repr

inductive Entry (ε ν : Type)
  /-- A handler failed that was called for a key. -/
  | handlerFailed (key : Text) (reason : ε)
  /-- Something of the client's own. -/
  | noted (notice : ν)

/-- A hub at work: the calls and the log, latest first, and what else there is. -/
structure Board (ε ν σ : Type) where
  hub : Hub
  calls : List Call
  log : List (Entry ε ν)
  state : σ

/-- What comes of an action of the client's own: an answer or a failure, and steps that are taken
right after it if it did not fail. -/
structure Effect (α β ε ν σ : Type) where
  result : Except ε β
  board : Board ε ν σ
  next : List (Step α)

/-- How handlers behave, what actions do, and the answer of a step without one. -/
structure Conduct (α β ε ν σ : Type) where
  handler : Text → Handler α ε
  act : α → Board ε ν σ → Effect α β ε ν σ
  done : β

namespace Conduct

variable {α β ε ν σ : Type}

/-- Takes steps in order up to the first one that fails. -/
def runAll (step : Step α → Board ε ν σ → Option (Except ε β × Board ε ν σ)) :
    List (Step α) → Board ε ν σ → Option (Option ε × Board ε ν σ)
  | [], b => some (none, b)
  | s :: rest, b =>
    match step s b with
    | none => none
    | some (.error reason, b) => some (some reason, b)
    | some (.ok _, b) => runAll step rest b

/-- Calls a handler: the call is recorded, then its steps are taken, then it fails if it is to. -/
def call (c : Conduct α β ε ν σ)
    (step : Step α → Board ε ν σ → Option (Except ε β × Board ε ν σ)) (key : Text)
    (data : Payload) (name : Text) (b : Board ε ν σ) : Option (Option ε × Board ε ν σ) :=
  match runAll step (c.handler name).steps { b with calls := ⟨name, key, data⟩ :: b.calls } with
  | none => none
  | some (some reason, b) => some (some reason, b)
  | some (none, b) => some ((c.handler name).failure, b)

/-- Calls handlers in order. One that fails is reported and stops nothing. -/
def callAll (c : Conduct α β ε ν σ)
    (step : Step α → Board ε ν σ → Option (Except ε β × Board ε ν σ)) (key : Text)
    (data : Payload) : List Text → Board ε ν σ → Option (Board ε ν σ)
  | [], b => some b
  | name :: names, b =>
    match c.call step key data name b with
    | none => none
    | some (none, b) => callAll c step key data names b
    | some (some reason, b) =>
      callAll c step key data names { b with log := .handlerFailed key reason :: b.log }

/-- Takes a step. There is no result if the steps that follow from it nest deeper than `n`. -/
def run (c : Conduct α β ε ν σ) :
    Nat → Step α → Board ε ν σ → Option (Except ε β × Board ε ν σ)
  | 0, _, _ => none
  | _ + 1, .subscribe key name, b =>
    some (.ok c.done, { b with hub := b.hub.subscribe key name })
  | _ + 1, .unsubscribe key name, b =>
    some (.ok c.done, { b with hub := b.hub.unsubscribe key name })
  | n + 1, .post key data, b =>
    (c.callAll (c.run n) key data (b.hub.subscribers key) b).map fun b => (.ok c.done, b)
  | n + 1, .act action, b =>
    let effect := c.act action b
    match effect.result with
    | .error reason => some (.error reason, effect.board)
    | .ok answer =>
      (runAll (c.run n) effect.next effect.board).map fun r =>
        (r.1.elim (.ok answer) .error, r.2)

end Conduct

end MudClient.Events
