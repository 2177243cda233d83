/-!
# A lock for readers and writers

* `Mode`, `Phase`: what a thread wants of the lock, and how far it has come
* `Lock`: the counts that the lock keeps
* `System`: a lock with its threads
* `Move`, `System.step?`: what one thread does while it has the lock's mutex
* `System.Reachable`: what comes of threads that arrive and move in any order
* `System.settle`: every thread that was woken goes on as far as it can
* `System.acquire`, `System.release`: one more thread, and one holder that leaves

Many readers or one writer hold the lock. A writer that waits keeps new readers out, and a thread that
waits is woken by the last reader and by the writer that leaves.
-/

set_option autoImplicit false

namespace MudClient.Concurrency

inductive Mode
  | read
  | write
deriving DecidableEq, Repr

/-- How far a thread has come. -/
inductive Phase
  | outside
  /-- The thread sleeps until it is woken; `woken` says that it was and may look again. -/
  | waiting (mode : Mode) (woken : Bool)
  | inside (mode : Mode)
deriving DecidableEq, Repr

def Phase.isWaitingFor (mode : Mode) : Phase → Bool
  | .waiting m _ => m = mode
  | _ => false

/-- The counts that the lock keeps. They are counted up and down as whole numbers, and nothing in them
keeps a count from falling below zero. -/
structure Lock where
  readers : Int
  writer : Bool
  waitingWriters : Int
deriving DecidableEq, Repr

namespace Lock

def free : Lock := ⟨0, false, 0⟩

/-- Whether a thread may enter. Readers give way to writers that wait. -/
def admits (l : Lock) : Mode → Bool
  | .read => !l.writer && l.waitingWriters == 0
  | .write => !l.writer && l.readers == 0

/-- The lock after a thread entered. A writer that enters does not wait any more. -/
def enter (l : Lock) : Mode → Lock
  | .read => { l with readers := l.readers + 1 }
  | .write => { l with writer := true, waitingWriters := l.waitingWriters - 1 }

/-- The lock after a thread asked for it: writers are counted as waiting from the first moment. -/
def ask (l : Lock) : Mode → Lock
  | .read => l
  | .write => { l with waitingWriters := l.waitingWriters + 1 }

/-- The lock after a holder left, normally or by a failure inside. -/
def leave (l : Lock) : Mode → Lock
  | .read => { l with readers := l.readers - 1 }
  | .write => { l with writer := false }

/-- Whether a holder that has left wakes those who wait. -/
def wakes (l : Lock) : Mode → Bool
  | .read => l.readers == 0
  | .write => true

end Lock

structure System where
  lock : Lock
  threads : List Phase
deriving DecidableEq, Repr

/-- What one thread does while it has the lock's mutex. -/
inductive Move
  /-- A thread outside asks for the lock, and enters or goes to sleep. -/
  | ask (thread : Nat) (mode : Mode)
  /-- A thread that was woken looks again, and enters or goes back to sleep. -/
  | retry (thread : Nat)
  /-- A thread inside leaves, in whatever way. -/
  | leave (thread : Nat)
deriving DecidableEq, Repr

namespace System

def empty : System := ⟨.free, []⟩

/-- One more thread, which has not asked for the lock yet. -/
def arrive (s : System) : System := { s with threads := s.threads ++ [.outside] }

def wake : Phase → Phase
  | .waiting mode _ => .waiting mode true
  | phase => phase

/-- Lets a thread that has asked enter or sleep. -/
def settleThread (s : System) (thread : Nat) (mode : Mode) : System :=
  if s.lock.admits mode then ⟨s.lock.enter mode, s.threads.set thread (.inside mode)⟩
  else { s with threads := s.threads.set thread (.waiting mode false) }

/-- The system after a move, if the thread can make it. -/
def step? (s : System) : Move → Option System
  | .ask thread mode =>
    if s.threads[thread]? = some .outside then
      some ({ s with lock := s.lock.ask mode }.settleThread thread mode)
    else none
  | .retry thread =>
    match s.threads[thread]? with
    | some (.waiting mode true) => some (s.settleThread thread mode)
    | _ => none
  | .leave thread =>
    match s.threads[thread]? with
    | some (.inside mode) =>
      let lock := s.lock.leave mode
      let threads := s.threads.set thread .outside
      some ⟨lock, if lock.wakes mode then threads.map wake else threads⟩
    | _ => none

/-- Threads arrive one after the other, and between two arrivals threads make moves in any order. -/
inductive Reachable : System → Prop
  | empty : Reachable empty
  | arrive {s : System} (h : Reachable s) : Reachable s.arrive
  | step {s s' : System} {m : Move} (h : Reachable s) (hs : s.step? m = some s') : Reachable s'

/-- The system after a move, or as it was if the thread cannot make it. -/
def move (s : System) (m : Move) : System :=
  (s.step? m).getD s

/-- Every thread that was woken looks again. Those who enter wake nobody, so that one round is enough. -/
def settle (s : System) : System :=
  (List.range s.threads.length).foldl (fun s thread => s.move (.retry thread)) s

def acquire (s : System) (mode : Mode) : System :=
  (s.arrive.move (.ask s.threads.length mode)).settle

def release (s : System) (mode : Mode) : Option System :=
  (s.threads.idxOf? (.inside mode)).map fun thread => (s.move (.leave thread)).settle

def holders (s : System) (mode : Mode) : Nat :=
  s.threads.count (.inside mode)

def waiters (s : System) (mode : Mode) : Nat :=
  s.threads.countP (Phase.isWaitingFor mode)

end System

end MudClient.Concurrency
