import MudClient.OrderedMap
import MudClient.Variables.Binding

/-!
# The variable store

* `Change`: a variable and the text it was set to
* `Store`: bindings, the keys that are computed, and the changes that have not been posted yet
* `Store.set`, `Store.remove`, `Store.clear`, `Store.close`: what clients do to a store
* `StoreCall`, `StoreCall.perform`: one of these, as it is asked for
* `Store.nextPending?`: the change to be posted next
* `Store.get?`, `Store.snapshot`, `Store.keys`: what clients see of a store
-/

set_option autoImplicit false

namespace MudClient.Variables

structure Change where
  key : Text
  text : Text
deriving DecidableEq, Repr

inductive StoreNotice
  /-- A change was stored after the store had been closed. -/
  | notPosted (key : Text)
deriving DecidableEq, Repr

def StoreNotice.message : StoreNotice → String
  | .notPosted key => "Store closed; change to '" ++ String.ofList key ++ "' not posted"

/-- Variables, and the changes to them that wait to be posted, oldest first. -/
structure Store where
  /-- The key under which changes are posted; changes are not posted where it is empty. -/
  eventKey : Text
  /-- The computed variables that the store has from the start and after it was cleared. -/
  fixed : List (Text × DynamicKind)
  bindings : OrderedMap Text Binding
  dynamicKeys : List Text
  pending : List Change
  closed : Bool

namespace Store

/-! ## Computed variables -/

/-- Makes a variable computed. One that is there already keeps its place. -/
def addDynamic (s : Store) (key : Text) (kind : DynamicKind) : Store :=
  { s with
    bindings := s.bindings.insert key (.computed kind)
    dynamicKeys := if key ∈ s.dynamicKeys then s.dynamicKeys else s.dynamicKeys ++ [key] }

def addDynamics (s : Store) (kinds : List (Text × DynamicKind)) : Store :=
  kinds.foldl (fun s p => s.addDynamic p.1 p.2) s

def isDynamic (s : Store) (key : Text) : Bool :=
  decide (key ∈ s.dynamicKeys)

def new (eventKey : Text) (fixed : List (Text × DynamicKind)) : Store :=
  addDynamics ⟨eventKey, fixed, .empty, [], [], false⟩ fixed

def plain (eventKey : Text) : Store :=
  new eventKey []

/-- The store of the whole game, with the date, both date and time, and the time. -/
def global (eventKey : Text) : Store :=
  new eventKey (DynamicKind.all.map fun kind => (kind.name, kind))

/-! ## Writing -/

/-- Puts a change in the queue; a store that has been closed reports it instead. -/
def notify (s : Store) (change : Change) : Store × List StoreNotice :=
  if s.eventKey.isEmpty then (s, [])
  else if s.closed then (s, [.notPosted change.key])
  else ({ s with pending := s.pending ++ [change] }, [])

/-- Binds a variable to a text, the empty one where none is given. Computed variables stay as they are,
and so does a variable that has the text already. -/
def set (s : Store) (r : Reading) (key : Text) (value : Option Text) : Store × List StoreNotice :=
  let text := value.getD []
  if s.isDynamic key then (s, [])
  else if (s.bindings.get? key).any (fun b => b.evaluate r == some text) then (s, [])
  else
    { s with bindings := s.bindings.insert key (.literal (some text)) }.notify ⟨key, text⟩

/-- Takes a variable away unless it is computed. -/
def remove (s : Store) (key : Text) : Store :=
  if s.isDynamic key then s else { s with bindings := s.bindings.erase key }

/-- Takes all variables away but the computed ones that the store had from the start. -/
def clear (s : Store) : Store :=
  { s with bindings := .empty, dynamicKeys := [] }.addDynamics s.fixed

/-- Changes from now on are stored but not posted. -/
def close (s : Store) : Store :=
  { s with closed := true }

/-- The oldest change that waits, and the store without it. -/
def nextPending? (s : Store) : Option (Change × Store) :=
  match s.pending with
  | [] => none
  | change :: later => some (change, { s with pending := later })

/-! ## Reading -/

def get? (s : Store) (r : Reading) (key : Text) : Option Text :=
  (s.bindings.get? key).bind fun b => b.evaluate r

def contains (s : Store) (key : Text) : Bool :=
  s.bindings.contains key

def size (s : Store) : Nat :=
  s.bindings.size

/-- All variables with their texts, in the order of the code points of their keys. -/
def snapshot (s : Store) (r : Reading) : List (Text × Text) :=
  (s.bindings.toList.mergeSort fun p q => !q.1.lex p.1 fun a b => a.toNat < b.toNat).map fun p =>
    (p.1, (p.2.evaluate r).getD [])

/-- All variables, longest first; those of one length stay in the order of the store. -/
def keys (s : Store) : List Text :=
  s.bindings.keys.mergeSort fun k l => decide (l.length ≤ k.length)

end Store

/-! ## Calls -/

/-- What is asked of a store. A text is compared with computed ones as they are at that moment. -/
inductive StoreCall
  | set (reading : Reading) (key : Text) (value : Option Text)
  | remove (key : Text)
  | clear
  | close

namespace StoreCall

def isClose : StoreCall → Bool
  | close => true
  | _ => false

/-- The store after a call, which has it to itself, and what the store noted. -/
def perform (s : Store) : StoreCall → Store × List StoreNotice
  | set r key value => s.set r key value
  | remove key => (s.remove key, [])
  | clear => (s.clear, [])
  | close => (s.close, [])

end StoreCall

end MudClient.Variables
