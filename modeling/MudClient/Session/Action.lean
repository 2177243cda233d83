import MudClient.Events.Board
import MudClient.Markup.Event
import MudClient.Reference.Cascade
import MudClient.Stream.GameEvent
import MudClient.Variables.Store

/-!
# Actions of a session

* `Action`: what can be done with a variable store, its clock, and the classification of lines
* `Answer`: what an action has to say
* `Failure`: why an action, or a handler, fails
* `Notice`: what a session notes in its log
-/

set_option autoImplicit false

namespace MudClient.Session

open Markup (Tag)
open MudClient.Stream (EventKind GameEvent)
open Variables (Binding DynamicKind StoreNotice)

/-- How a line is classified. -/
structure Watch where
  /-- Whether variables are written. -/
  writes : Bool
  /-- Whether a handler is told of events. -/
  tells : Bool
  /-- The call on which the handler fails, counted from 0. -/
  failsAt : Option Nat
deriving DecidableEq, Repr

/-- What can be done in a session besides the steps on its hub. -/
inductive Action
  | get (key : Text)
  | contains (key : Text)
  | isDynamic (key : Text)
  | remove (key : Text)
  | set (key : Text) (value : Option Text)
  | clear
  | size
  | flush
  | close
  | snapshot
  | keys
  | addDynamic (key kind : Text)
  | evaluateLiteral (text : Option Text)
  | evaluateComputed (kind : Text)
  | tick (seconds : Int)
  | expand (text : Text)
  | script (line : Text)
  | stream (line : Text) (watch : Watch)
  | classify (tags : List Tag) (watch : Watch)
  /-- Posts the changes that wait, one after the other. -/
  | deliver
  /-- The delivery of a change has come to its end. -/
  | delivered

/-- What the handler of events saw: the kind of an event, and what the variables it sets had become. -/
structure Sight where
  kind : EventKind
  values : List (Option Text)

inductive Failure
  /-- A handler of the hub that fails by itself. -/
  | handler (message : Text)
  /-- The handler of events failed on a call. -/
  | watcher (call : Nat)
  | unknownKind (error : DynamicKind.Unknown)
  | expansion (error : Reference.ExpandError)
  | reference (error : Text.TooManyDigits)
  /-- The worker that delivers changes would have to wait for itself. -/
  | workerWaits
deriving DecidableEq, Repr

def Failure.message : Failure → String
  | handler message => String.ofList message
  | watcher call => "handler " ++ toString call
  | unknownKind e => e.message
  | expansion e => e.message
  | reference e => e.message
  | workerWaits => "cannot join current thread"

inductive Answer
  | done
  | text (value : Option Text)
  | flag (value : Bool)
  | number (value : Nat)
  | texts (values : List Text)
  | pairs (values : List (Text × Text))
  | evaluated (computed : Bool) (value : Option Text)
  | instruction (value : Option (String × List Text))
  | events (events : List GameEvent) (seen : List Sight)
  /-- The classification stopped at a failure. -/
  | stopped (failure : Failure) (seen : List Sight)

inductive Notice
  | markup (notice : Markup.Notice)
  | store (notice : StoreNotice)
  /-- The change of a variable could not be delivered. -/
  | notDelivered (key : Text) (reason : Text)
deriving DecidableEq

def Notice.message : Notice → String
  | markup n => n.message
  | store n => n.message
  | notDelivered key reason =>
    "Variable change notification for '" ++ String.ofList key ++ "' failed: " ++ String.ofList reason

def entryMessage : Events.Entry Failure Notice → String
  | .handlerFailed key reason =>
    "Event handler for '" ++ String.ofList key ++ "' failed: " ++ reason.message
  | .noted n => n.message

end MudClient.Session
