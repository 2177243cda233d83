import MudClient.Concurrency.ReadersWriterLock
import MudClient.Variables.Store

/-!
# Several clients at one store

* `Store.assign?`: the first half of a set, without the decision whether the change is posted
* `Job`: what the worker of a store finds in its queue
* `Stage`, `Action`: how far a client has come with what it does, and what it does next
* `Shared`: what the clients have in common
* `Shared.act?`: one action, after which others may go on
* `Access`, `Access.step?`, `Access.run?`: clients that act in any order

A client has the lock to itself while it sets a variable and while it marks the store as closed. A flush looks for
that mark without the lock, and the queue is shut without it.
-/

set_option autoImplicit false

namespace MudClient.Variables

open Concurrency (System Phase)

/-- The store with a variable bound to a text, and the change that this is; none where a set does nothing. -/
def Store.assign? (s : Store) (r : Reading) (key : Text) (value : Option Text) : Option (Store × Change) :=
  let text := value.getD []
  if s.isDynamic key || (s.bindings.get? key).any fun b => b.evaluate r == some text then none
  else some ({ s with bindings := s.bindings.insert key (.literal (some text)) }, ⟨key, text⟩)

inductive Job
  | post (change : Change)
  /-- Nothing is done. The flush of the client waits until it is the turn of this job. -/
  | nothing (client : Nat)
deriving DecidableEq, Repr

inductive Stage
  | idle
  | setting (reading : Reading) (key : Text) (value : Option Text)
  /-- The variable is bound, and the client still has to see whether its change is posted. -/
  | notifying (change : Change)
  /-- The client has seen that the store is open. -/
  | submitting (change : Change)
  /-- All is done but leaving the lock. -/
  | leaving
  /-- A flush has seen that the store is open. -/
  | flushing
  | awaiting
  | closing
  /-- The store is marked as closed, and the client has the lock still. -/
  | marked
  | shutting
  | joining

inductive Action
  | set (reading : Reading) (key : Text) (value : Option Text)
  | flush
  | close
  | bind
  | check
  | submit
  | leave
  /-- A flush has its answer. -/
  | finish
  /-- A flush does not wait any longer. -/
  | giveUp
  | mark
  | shut
  | join

/-- A store with its lock, and the queue of its worker. -/
structure Shared where
  store : Store
  lock : System
  /-- The jobs for the worker, oldest first. -/
  queue : List Job
  /-- The queue takes nothing more; what is in it is still done. -/
  shut : Bool
  /-- The jobs that came to the queue after it had been shut, each of which is an error of its client. -/
  refused : List (Nat × Job)
  log : List StoreNotice

namespace Shared

/-- Whether a client is inside the lock to write. -/
def Writing (s : Shared) (client : Nat) : Prop :=
  s.lock.threads[client]? = some (.inside .write)

instance (s : Shared) (client : Nat) : Decidable (s.Writing client) :=
  inferInstanceAs (Decidable (_ = _))

def submit (s : Shared) (client : Nat) (job : Job) : Shared :=
  if s.shut then { s with refused := s.refused ++ [(client, job)] } else { s with queue := s.queue ++ [job] }

/-- The lock after a client has made a move. -/
def move? (s : Shared) (m : Concurrency.Move) : Option Shared :=
  (s.lock.step? m).map fun lock => { s with lock := lock }

/-- What an action of a client at some stage does, and the stage after it. A client that gets an error inside the
lock leaves it all the same. -/
def act? (s : Shared) (client : Nat) : Stage → Action → Option (Shared × Stage)
  | .idle, .set reading key value =>
    (s.move? (.ask client .write)).map fun s' => (s', .setting reading key value)
  | .idle, .close => (s.move? (.ask client .write)).map fun s' => (s', .closing)
  | .idle, .flush => some (s, if s.store.closed then .idle else .flushing)
  | .setting reading key value, .bind =>
    if s.Writing client then
      match s.store.assign? reading key value with
      | none => some (s, .leaving)
      | some (store, change) => some ({ s with store := store }, .notifying change)
    else none
  | .notifying change, .check =>
    if s.store.eventKey.isEmpty then some (s, .leaving)
    else if s.store.closed then some ({ s with log := s.log ++ [.notPosted change.key] }, .leaving)
    else some (s, .submitting change)
  | .submitting change, .submit => some (s.submit client (.post change), .leaving)
  | .leaving, .leave => (s.move? (.leave client)).map fun s' => (s', .idle)
  | .flushing, .submit => some (s.submit client (.nothing client), if s.shut then .idle else .awaiting)
  | .awaiting, .finish => if .nothing client ∈ s.queue then none else some (s, .idle)
  | .awaiting, .giveUp => some (s, .idle)
  | .closing, .mark => if s.Writing client then some ({ s with store := s.store.close }, .marked) else none
  | .marked, .leave => (s.move? (.leave client)).map fun s' => (s', .shutting)
  | .shutting, .shut => some ({ s with shut := true }, .joining)
  | .joining, .join => if s.queue = [] then some (s, .idle) else none
  | _, _ => none

end Shared

/-- Clients of one store, each with its stage. -/
structure Access where
  shared : Shared
  stages : List Stage

namespace Access

inductive Step
  /-- One more client. -/
  | arrive
  | act (client : Nat) (action : Action)
  /-- A client that waits for the lock and was woken looks again. -/
  | retry (client : Nat)
  /-- The worker does its oldest job. -/
  | work

def start (store : Store) : Access := ⟨⟨store, .empty, [], false, [], []⟩, []⟩

def step? (a : Access) : Step → Option Access
  | .arrive => some ⟨{ a.shared with lock := a.shared.lock.arrive }, a.stages ++ [.idle]⟩
  | .act client action =>
    (a.stages[client]?).bind fun stage =>
      (a.shared.act? client stage action).map fun p => ⟨p.1, a.stages.set client p.2⟩
  | .retry client => (a.shared.move? (.retry client)).map fun s => ⟨s, a.stages⟩
  | .work =>
    match a.shared.queue with
    | [] => none
    | _ :: later => some ⟨{ a.shared with queue := later }, a.stages⟩

/-- Steps in the order in which they are taken, if all of them can be. -/
def run? (a : Access) (steps : List Step) : Option Access :=
  steps.foldlM step? a

end Access

end MudClient.Variables
