import MudClient.Proofs.Events.Depth

/-!
# The course of a post

* `Edit`: a subscription more or less, and what it makes of the lists of handlers
* `Course`, `Visits`: what handlers do on a hub and the calls that their posts make, as trees
* `Conduct.Takes`, `Conduct.Posts`: the trees that steps and posts lead to
* `Conduct.exists_posts_of_run`: a post with a result has such a tree
-/

set_option autoImplicit false

namespace MudClient.Events

/-! ## Edits -/

/-- What a handler does to the lists of a hub. -/
inductive Edit
  | subscribe (key name : Text)
  | unsubscribe (key name : Text)
deriving DecidableEq, Repr

/-- The lists after an edit: one more name comes last, and of the names that are equal the first one goes. -/
def Edit.apply (lists : Text → List Text) : Edit → Text → List Text
  | subscribe key name, k => if k = key then lists k ++ [name] else lists k
  | unsubscribe key name, k => if k = key then (lists k).erase name else lists k

namespace Hub

theorem subscribers_subscribe (h : Hub) (key name : Text) :
    (h.subscribe key name).subscribers = (Edit.subscribe key name).apply h.subscribers := by
  funext k
  rw [subscribers, subscribe, OrderedMap.get?_insert, Edit.apply]
  split
  · next hk => rw [hk, Option.getD_some]
  · rfl

theorem subscribers_unsubscribe (h : Hub) (key name : Text) :
    (h.unsubscribe key name).subscribers = (Edit.unsubscribe key name).apply h.subscribers := by
  funext k
  rw [unsubscribe, Edit.apply]
  split
  · rw [subscribers, OrderedMap.get?_insert]
    split
    · next hk => rw [hk, Option.getD_some]
    · rfl
  · next hname =>
    split
    · next hk => rw [hk, List.erase_of_not_mem hname]
    · rfl

end Hub

/-! ## Trees -/

mutual
/-- What a handler does on a hub, in order: edits, and posts with the calls that they make. -/
inductive Course (ε : Type)
  | nothing
  | edit (made : Edit) (later : Course ε)
  | post (key : Text) (data : Payload) (visits : Visits ε) (later : Course ε)
/-- The calls that a post makes, in order: which handler is called, what it does, and why it fails if it does. -/
inductive Visits (ε : Type)
  | nobody
  | visit (name : Text) (course : Course ε) (failure : Option ε) (later : Visits ε)
end

variable {α β ε ν σ : Type}

def Course.append : Course ε → Course ε → Course ε
  | .nothing, course => course
  | .edit made later, course => .edit made (later.append course)
  | .post key data visits later, course => .post key data visits (later.append course)

theorem Course.append_assoc : ∀ first second third : Course ε,
    (first.append second).append third = first.append (second.append third)
  | .nothing, _, _ => rfl
  | .edit made later, second, third => congrArg (Course.edit made) (later.append_assoc second third)
  | .post key data visits later, second, third =>
    congrArg (Course.post key data visits) (later.append_assoc second third)

/-- The handlers that a post calls itself. -/
def Visits.names : Visits ε → List Text
  | .nobody => []
  | .visit name _ _ later => name :: later.names

mutual
def Course.calls : Course ε → List Call
  | .nothing => []
  | .edit _ later => later.calls
  | .post key data visits later => visits.calls key data ++ later.calls
/-- All calls of a post in the order in which they begin. Those that a handler makes come right after its own. -/
def Visits.calls : Visits ε → Text → Payload → List Call
  | .nobody, _, _ => []
  | .visit name course _ later, key, data => ⟨name, key, data⟩ :: (course.calls ++ later.calls key data)
end

mutual
/-- The calls that fail, each with its key and its reason, in the order in which they end. -/
def Course.failures : Course ε → List (Text × ε)
  | .nothing => []
  | .edit _ later => later.failures
  | .post key _ visits later => visits.failures key ++ later.failures
def Visits.failures : Visits ε → Text → List (Text × ε)
  | .nobody, _ => []
  | .visit _ course failure later, key =>
    course.failures ++ (failure.toList.map fun reason => (key, reason)) ++ later.failures key
end

mutual
def Course.edits : Course ε → List Edit
  | .nothing => []
  | .edit made later => made :: later.edits
  | .post _ _ visits later => visits.edits ++ later.edits
def Visits.edits : Visits ε → List Edit
  | .nobody => []
  | .visit _ course _ later => course.edits ++ later.edits
end

mutual
/-- Each post of a course calls the handlers that are in the list of its key when it begins. -/
def Course.Timely : Course ε → (Text → List Text) → Prop
  | .nothing, _ => True
  | .edit made later, lists => later.Timely (made.apply lists)
  | .post key _ visits later, lists =>
    visits.names = lists key ∧ visits.Timely lists ∧ later.Timely (visits.edits.foldl Edit.apply lists)
def Visits.Timely : Visits ε → (Text → List Text) → Prop
  | .nobody, _ => True
  | .visit _ course _ later, lists => course.Timely lists ∧ later.Timely (course.edits.foldl Edit.apply lists)
end

namespace Conduct

/-! ## What steps lead to -/

mutual
/-- Steps are taken in order up to a failure, if there is one. What they are to the hub is a course. -/
inductive Takes (c : Conduct α β ε ν σ) :
    List (Step α) → Board ε ν σ → Course ε → Option ε → Board ε ν σ → Prop
  | done {b : Board ε ν σ} : Takes c [] b .nothing none b
  | subscribe {key name : Text} {rest : List (Step α)} {b b' : Board ε ν σ} {course : Course ε}
    {failure : Option ε} :
    Takes c rest { b with hub := b.hub.subscribe key name } course failure b' →
      Takes c (.subscribe key name :: rest) b (.edit (.subscribe key name) course) failure b'
  | unsubscribe {key name : Text} {rest : List (Step α)} {b b' : Board ε ν σ} {course : Course ε}
    {failure : Option ε} :
    Takes c rest { b with hub := b.hub.unsubscribe key name } course failure b' →
      Takes c (.unsubscribe key name :: rest) b (.edit (.unsubscribe key name) course) failure b'
  | post {key : Text} {data : Payload} {rest : List (Step α)} {b b₁ b' : Board ε ν σ} {visits : Visits ε}
    {course : Course ε} {failure : Option ε} :
    Posts c key data (b.hub.subscribers key) b visits b₁ → Takes c rest b₁ course failure b' →
      Takes c (.post key data :: rest) b (.post key data visits course) failure b'
  | act {action : α} {answer : β} {rest : List (Step α)} {b b' : Board ε ν σ} {course : Course ε}
    {failure : Option ε} :
    (c.act action b).result = .ok answer →
      Takes c ((c.act action b).next ++ rest) (c.act action b).board course failure b' →
        Takes c (.act action :: rest) b course failure b'
  | stop {action : α} {reason : ε} {rest : List (Step α)} {b : Board ε ν σ} :
    (c.act action b).result = .error reason →
      Takes c (.act action :: rest) b .nothing (some reason) (c.act action b).board
/-- Handlers are called in order. A handler fails where it stops, or else in the end if it is to. -/
inductive Posts (c : Conduct α β ε ν σ) :
    Text → Payload → List Text → Board ε ν σ → Visits ε → Board ε ν σ → Prop
  | nobody {key : Text} {data : Payload} {b : Board ε ν σ} : Posts c key data [] b .nobody b
  | visit {key name : Text} {data : Payload} {names : List Text} {b b₁ b' : Board ε ν σ} {course : Course ε}
    {stopped : Option ε} {visits : Visits ε} :
    Takes c (c.handler name).steps { b with calls := ⟨name, key, data⟩ :: b.calls } course stopped b₁ →
      Posts c key data names (report key (stopped.or (c.handler name).failure, b₁)) visits b' →
        Posts c key data (name :: names) b (.visit name course (stopped.or (c.handler name).failure) visits) b'
end

variable {c : Conduct α β ε ν σ}
variable {step : Step α → Board ε ν σ → Option (Except ε β × Board ε ν σ)}
variable {key : Text} {data : Payload} {names : List Text} {s : Step α} {steps : List (Step α)}
variable {b b' : Board ε ν σ}

-- An action asks for steps that stand before those that are left, so that the course of a list is known only when
-- all that comes after it is; hence the statement for every continuation.
/-- Steps make the first part of a course, or all of it if one of them fails, whatever comes after them. -/
def Heads (c : Conduct α β ε ν σ) (steps : List (Step α)) (b : Board ε ν σ) (first : Course ε) (b' : Board ε ν σ) :
    Option ε → Prop
  | none => ∀ rest course failure b'', c.Takes rest b' course failure b'' →
      c.Takes (steps ++ rest) b (first.append course) failure b''
  | some reason => ∀ rest, c.Takes (steps ++ rest) b first (some reason) b'

def reason? : Except ε β → Option ε
  | .ok _ => none
  | .error reason => some reason

theorem takes_of_heads {first : Course ε} {stopped : Option ε} (h : c.Heads steps b first b' stopped) :
    ∃ course, c.Takes steps b course stopped b' := by
  cases stopped with
  | none =>
    have hall := h [] .nothing none b' .done
    rw [List.append_nil] at hall
    exact ⟨_, hall⟩
  | some reason =>
    have hall := h []
    rw [List.append_nil] at hall
    exact ⟨_, hall⟩

section

variable (hstep : ∀ s b r b', step s b = some (r, b') → ∃ first, c.Heads [s] b first b' (reason? r))
include hstep

theorem exists_heads_of_runAll {stopped : Option ε} (h : runAll step steps b = some (stopped, b')) :
    ∃ first, c.Heads steps b first b' stopped := by
  induction steps generalizing b with
  | nil =>
    obtain ⟨rfl, rfl⟩ := Prod.mk.inj (Option.some.inj h)
    exact ⟨.nothing, fun rest course failure b'' htakes => htakes⟩
  | cons s steps ih =>
    rw [runAll] at h
    split at h
    · cases h
    · next reason b₁ hs =>
      obtain ⟨rfl, rfl⟩ := Prod.mk.inj (Option.some.inj h)
      obtain ⟨first, hfirst⟩ := hstep s b _ _ hs
      exact ⟨first, fun rest => hfirst (steps ++ rest)⟩
    · next answer b₁ hs =>
      obtain ⟨first, hfirst⟩ := hstep s b _ _ hs
      obtain ⟨second, hsecond⟩ := ih h
      cases stopped with
      | none =>
        refine ⟨first.append second, fun rest course failure b'' htakes => ?_⟩
        rw [Course.append_assoc]
        exact hfirst _ _ _ _ (hsecond rest course failure b'' htakes)
      | some reason => exact ⟨first.append second, fun rest => hfirst _ _ _ _ (hsecond rest)⟩

theorem exists_posts_of_callAll (h : c.callAll step key data names b = some b') :
    ∃ visits, c.Posts key data names b visits b' := by
  induction names generalizing b with
  | nil =>
    obtain rfl := Option.some.inj h
    exact ⟨.nobody, .nobody⟩
  | cons name names ih =>
    rw [callAll_cons] at h
    obtain ⟨r, hcall, hrest⟩ := Option.bind_eq_some_iff.1 h
    obtain ⟨visits, hvisits⟩ := ih hrest
    obtain ⟨stopped, b₁, hsteps, rfl⟩ := exists_runAll_of_call hcall
    obtain ⟨first, hfirst⟩ := exists_heads_of_runAll hstep hsteps
    obtain ⟨course, hcourse⟩ := takes_of_heads hfirst
    exact ⟨_, .visit hcourse hvisits⟩

end

theorem exists_heads_of_run {n : Nat} {r : Except ε β} (h : c.run n s b = some (r, b')) :
    ∃ first, c.Heads [s] b first b' (reason? r) := by
  induction n generalizing s b r b' with
  | zero => cases h
  | succ n ih =>
    have hstep : ∀ s b r b', c.run n s b = some (r, b') → ∃ first, c.Heads [s] b first b' (reason? r) :=
      fun s b r b' hs => ih hs
    cases s with
    | subscribe key name =>
      obtain ⟨rfl, rfl⟩ := Prod.mk.inj (Option.some.inj h)
      exact ⟨.edit (.subscribe key name) .nothing, fun rest course failure b'' htakes => .subscribe htakes⟩
    | unsubscribe key name =>
      obtain ⟨rfl, rfl⟩ := Prod.mk.inj (Option.some.inj h)
      exact ⟨.edit (.unsubscribe key name) .nothing, fun rest course failure b'' htakes => .unsubscribe htakes⟩
    | post key data =>
      obtain ⟨b₁, hcalls, heq⟩ := Option.map_eq_some_iff.1 h
      obtain ⟨rfl, rfl⟩ := Prod.mk.inj heq
      obtain ⟨visits, hvisits⟩ := exists_posts_of_callAll hstep hcalls
      exact ⟨.post key data visits .nothing, fun rest course failure b'' htakes => .post hvisits htakes⟩
    | act action =>
      simp only [run] at h
      split at h
      · next reason hresult =>
        obtain ⟨rfl, rfl⟩ := Prod.mk.inj (Option.some.inj h)
        exact ⟨.nothing, fun rest => .stop hresult⟩
      · next answer hresult =>
        obtain ⟨⟨stopped, b₁⟩, hnext, heq⟩ := Option.map_eq_some_iff.1 h
        obtain ⟨rfl, rfl⟩ := Prod.mk.inj heq
        obtain ⟨first, hfirst⟩ := exists_heads_of_runAll hstep hnext
        cases stopped with
        | none => exact ⟨first, fun rest course failure b'' htakes => .act hresult (hfirst _ _ _ _ htakes)⟩
        | some reason => exact ⟨first, fun rest => .act hresult (hfirst rest)⟩

/-- A post that has a result has no failure, and the calls that it makes are a tree. -/
theorem exists_posts_of_run {n : Nat} {r : Except ε β} (h : c.run n (.post key data) b = some (r, b')) :
    r = .ok c.done ∧ ∃ visits, c.Posts key data (b.hub.subscribers key) b visits b' := by
  cases n with
  | zero => cases h
  | succ n =>
    obtain ⟨b₁, hcalls, heq⟩ := Option.map_eq_some_iff.1 h
    obtain ⟨rfl, rfl⟩ := Prod.mk.inj heq
    exact ⟨rfl, exists_posts_of_callAll (fun s b r b' hs => exists_heads_of_run hs) hcalls⟩

end Conduct

end MudClient.Events
