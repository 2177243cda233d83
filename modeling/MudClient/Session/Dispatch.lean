import MudClient.Session.Action

/-!
# Changes on their way

* `Posting`: what is posted of a change
* `Dispatch`: a store, the worker that posts its changes, and what has become of them
* `Dispatch.Step`, `Dispatch.step?`: what clients, the worker and the handlers that it calls do, one step at a
  time
* `Dispatch.run?`: steps in the order in which they are taken
-/

set_option autoImplicit false

namespace MudClient.Session

open Events (Entry Payload)
open Variables (Change Store StoreCall)

structure Posting where
  key : Text
  data : Payload
deriving DecidableEq, Repr

def Posting.ofChange (eventKey : Text) (change : Change) : Posting :=
  ⟨eventKey, [(change.key, change.text)]⟩

/-- A store whose changes one worker posts, while clients go on and handlers call back. -/
structure Dispatch where
  store : Store
  /-- The change that is being posted just now. -/
  current : Option Change
  posted : List Posting
  /-- The changes whose posts have come to their end, with the reason of each post that failed. -/
  finished : List (Change × Option Text)
  /-- How many clients have closed the store and have not shut the worker's queue yet. -/
  closing : Nat
  /-- The queue has been shut: it takes nothing more, and what is in it is still posted. -/
  shut : Bool
  /-- The changes that were to go into the queue after it had been shut. -/
  refused : List Change
  log : List (Entry Failure Notice)

inductive Caller
  | client
  /-- A handler to which the worker is posting. -/
  | handler
deriving DecidableEq, Repr

namespace Dispatch

inductive Step
  | call (caller : Caller) (call : StoreCall)
  /-- A client that has closed the store shuts the queue. -/
  | shut
  /-- The worker takes the oldest change and posts it. -/
  | take
  /-- A handler fails. The sink reports it and goes on. -/
  | handlerFails (reason : Failure)
  /-- The post comes to its end, which is a failure of the sink if there is a reason. -/
  | finish (failure : Option Text)

def start (store : Store) : Dispatch := ⟨store, none, [], [], 0, false, [], []⟩

/-- Clients may call at any time, and handlers while they are posted to. Handlers do not close the store. -/
def allows (d : Dispatch) (call : StoreCall) : Caller → Bool
  | .client => true
  | .handler => d.current.isSome && !call.isClose

/-- A call with what follows from it: a change goes into the queue, or is refused if the queue has been shut. -/
def perform (d : Dispatch) (call : StoreCall) : Dispatch :=
  let written := call.perform d.store
  let d' : Dispatch := { d with
    store := written.1
    closing := if call.isClose then d.closing + 1 else d.closing
    log := d.log ++ written.2.map fun n => Entry.noted (.store n) }
  if d.shut then
    { d' with
      store := { written.1 with pending := d.store.pending }
      refused := d.refused ++ written.1.pending.drop d.store.pending.length }
  else d'

/-- What comes of a step, if it can be taken. -/
def step? (d : Dispatch) : Step → Option Dispatch
  | .call caller call => if d.allows call caller then some (d.perform call) else none
  | .shut => if 0 < d.closing then some { d with closing := d.closing - 1, shut := true } else none
  | .take =>
    match d.current, d.store.nextPending? with
    | none, some (change, store) =>
      some { d with
        store := store
        current := some change
        posted := d.posted ++ [.ofChange store.eventKey change] }
    | _, _ => none
  | .handlerFails reason =>
    d.current.map fun _ => { d with log := d.log ++ [Entry.handlerFailed d.store.eventKey reason] }
  | .finish failure =>
    d.current.map fun change => { d with
      current := none
      finished := d.finished ++ [(change, failure)]
      log := d.log ++ failure.toList.map fun reason => Entry.noted (.notDelivered change.key reason) }

/-- Steps in the order in which they are taken, if all of them can be. -/
def run? (d : Dispatch) (steps : List Step) : Option Dispatch :=
  steps.foldlM step? d

end Dispatch

end MudClient.Session
