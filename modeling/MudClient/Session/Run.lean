import MudClient.Markup.Line
import MudClient.Script.Lexer
import MudClient.Session.Dispatch
import MudClient.Variables.Expansion

/-!
# Sessions

* `Sink`: where a store posts its changes
* `State`: the store, the clock and the settings of a session
* `perform`: what one action does
* `Session.conduct`, `Session.step`: a step of a session, after which no change waits any more
-/

set_option autoImplicit false

namespace MudClient.Session

open Events (Board Conduct Effect Entry Step)
open Markup (Tag)
open MudClient.Stream (GameEvent Receiver)
open Variables (Binding Change DynamicKind Reading Store StoreCall StoreNotice)

/-- Where a store posts its changes. -/
inductive Sink
  | hub
  /-- Nobody is told. -/
  | silent
  /-- Every post fails. -/
  | failing (reason : Text)
deriving DecidableEq, Repr

/-- What the actions of a session work on. -/
structure State where
  store : Store
  reading : Reading
  sink : Sink
  /-- Whether a change is being delivered just now. -/
  delivering : Bool

abbrev Desk := Board Failure Notice State

abbrev Outcome := Effect Action Answer Failure Notice State

namespace Desk

/-- The session with another store, and with what the store noted. -/
def putStore (d : Desk) (written : Store × List StoreNotice) : Desk :=
  { d with
    state := { d.state with store := written.1 }
    log := (written.2.map fun n => Entry.noted (.store n)).reverse ++ d.log }

def call (d : Desk) (call : StoreCall) : Desk :=
  d.putStore (call.perform d.state.store)

def set (d : Desk) (key : Text) (value : Option Text) : Desk :=
  d.call (.set d.state.reading key value)

def get? (d : Desk) (key : Text) : Option Text :=
  d.state.store.get? d.state.reading key

end Desk

def answered (d : Desk) (answer : Answer) : Outcome :=
  ⟨.ok answer, d, []⟩

def failed (d : Desk) (failure : Failure) : Outcome :=
  ⟨.error failure, d, []⟩

def settled {ε : Type} (d : Desk) (wrap : ε → Failure) : Except ε Answer → Outcome
  | .ok answer => answered d answer
  | .error e => failed d (wrap e)

/-! ## Classification -/

/-- Variables are written to the session's store, and what the handler sees is recorded, latest first. -/
def watcher (w : Watch) : Receiver (Desk × List Sight) Failure where
  write key value s := if w.writes then (s.1.set key (some value), s.2) else s
  handle event s :=
    if w.tells then
      let sight : Sight := ⟨event.kind, event.variables.map fun p => s.1.get? p.1⟩
      (if w.failsAt = some s.2.length then some (.watcher s.2.length) else none, s.1, sight :: s.2)
    else (none, s)

def classify (d : Desk) (tags : List Tag) (w : Watch) : Outcome :=
  match GameEvent.ofTags tags with
  | .error e => failed d (.reference e)
  | .ok events =>
    match (watcher w).accept events (d, []) with
    | (none, d, seen) => answered d (.events events seen.reverse)
    | (some failure, d, seen) => answered d (.stopped failure seen.reverse)

def classifyLine (d : Desk) (line : Text) (w : Watch) : Outcome :=
  let read := Markup.readLine line
  classify { d with log := (read.2.map fun n => Entry.noted (.markup n)).reverse ++ d.log } read.1 w

/-! ## Delivery -/

/-- Takes the oldest change that waits and posts it. What it leads to is done before the next one
is taken. -/
def deliver (d : Desk) : Outcome :=
  match d.state.store.nextPending? with
  | none => answered d .done
  | some (change, store) =>
    let d : Desk := { d with state := { d.state with store := store } }
    match d.state.sink with
    | .hub =>
      let posting := Posting.ofChange store.eventKey change
      ⟨.ok .done, { d with state := { d.state with delivering := true } },
        [.post posting.key posting.data, .act .delivered, .act .deliver]⟩
    | .silent => ⟨.ok .done, d, [.act .deliver]⟩
    | .failing reason =>
      ⟨.ok .done, { d with log := .noted (.notDelivered change.key reason) :: d.log }, [.act .deliver]⟩

/-- Waits until no change waits any more. While one is being delivered there is nothing to wait for. -/
def settle (d : Desk) : Outcome :=
  if d.state.delivering then answered d .done else ⟨.ok .done, d, [.act .deliver]⟩

/-! ## Actions -/

def perform (action : Action) (d : Desk) : Outcome :=
  let s := d.state
  match action with
  | .get key => answered d (.text (d.get? key))
  | .contains key => answered d (.flag (s.store.contains key))
  | .isDynamic key => answered d (.flag (s.store.isDynamic key))
  | .remove key => answered (d.call (.remove key)) .done
  | .set key value => answered (d.set key value) .done
  | .clear => answered (d.call .clear) .done
  | .size => answered d (.number s.store.size)
  | .flush => settle d
  | .close =>
    let d := d.call .close
    if s.delivering then failed d .workerWaits else settle d
  | .snapshot => answered d (.pairs (s.store.snapshot s.reading))
  | .keys => answered d (.texts s.store.keys)
  | .addDynamic key kind =>
    match DynamicKind.read kind with
    | .ok kind => answered (d.putStore (s.store.addDynamic key kind, [])) .done
    | .error e => failed d (.unknownKind e)
  | .evaluateLiteral text =>
    answered d (.evaluated false ((Binding.literal text).evaluate s.reading))
  | .evaluateComputed kind =>
    settled d .unknownKind ((DynamicKind.read kind).map fun kind =>
      .evaluated true ((Binding.computed kind).evaluate s.reading))
  | .tick seconds =>
    let reading := { s.reading with now := s.reading.now.tick seconds }
    answered { d with state := { s with reading := reading } } .done
  | .expand text =>
    settled d .expansion ((s.store.expand s.reading text).map fun t => .text (some t))
  | .script line =>
    match Script.readLine line with
    | none => answered d (.instruction none)
    | some instruction =>
      settled d .expansion ((s.store.expandAll s.reading instruction.values).map fun values =>
        .instruction (some (instruction.kind, values)))
  | .stream line watch => classifyLine d line watch
  | .classify tags watch => classify d tags watch
  | .deliver => deliver d
  | .delivered => answered { d with state := { s with delivering := false } } .done

/-- How a session goes on, given the behaviour of the handlers on its hub. -/
def conduct (handler : Text → Events.Handler Action Failure) :
    Conduct Action Answer Failure Notice State :=
  ⟨handler, perform, .done⟩

/-- A step, and the delivery of all changes that it leads to. There is no result if posts nest, or
changes follow each other, deeper than `n`. -/
def step (handler : Text → Events.Handler Action Failure) (n : Nat) (s : Step Action) (d : Desk) :
    Option (Except Failure Answer × Desk) :=
  match (conduct handler).run n s d with
  | none => none
  | some (result, d) =>
    ((conduct handler).run n (.act .deliver) d).map fun r => (result, r.2)

end MudClient.Session
