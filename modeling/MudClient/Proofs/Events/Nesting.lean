import MudClient.Proofs.Events.Course
import MudClient.Proofs.Session.Discreet

/-!
# Posts within posts

* `Brings`: what is new on a board
* `Conduct.brings_of_posts`, `Conduct.timely_of_posts`: what the tree of a post says of the board
* `Conduct.Accounts`, `Conduct.exists_run_post`: what a post comes to
-/

set_option autoImplicit false

namespace MudClient.Events

variable {α β ε ν σ : Type}

/-! ## What is new on a board -/

/-- What is new on the second board: calls, failures, and the edits of the hub. -/
structure Brings (calls : List Call) (failed : List (Text × ε)) (edits : List Edit) (b b' : Board ε ν σ) : Prop where
  calls_eq : b'.calls = calls.reverse ++ b.calls
  failures_eq : failures b'.log = failed.reverse ++ failures b.log
  subscribers_eq : b'.hub.subscribers = edits.foldl Edit.apply b.hub.subscribers

section

variable {calls calls' : List Call} {failed failed' : List (Text × ε)} {edits edits' : List Edit}
variable {b b₁ b' : Board ε ν σ}

theorem brings_refl (b : Board ε ν σ) : Brings [] [] [] b b := ⟨rfl, rfl, rfl⟩

theorem Brings.trans (h : Brings calls failed edits b b₁) (h' : Brings calls' failed' edits' b₁ b') :
    Brings (calls ++ calls') (failed ++ failed') (edits ++ edits') b b' where
  calls_eq := by rw [h'.calls_eq, h.calls_eq, List.reverse_append, List.append_assoc]
  failures_eq := by rw [h'.failures_eq, h.failures_eq, List.reverse_append, List.append_assoc]
  subscribers_eq := by rw [h'.subscribers_eq, h.subscribers_eq, List.foldl_append]

theorem brings_of_undisturbed (h : Undisturbed b b') : Brings [] [] [] b b' :=
  ⟨h.calls_eq, h.failures_eq, by rw [h.hub_eq]; rfl⟩

theorem brings_call (name key : Text) (data : Payload) (b : Board ε ν σ) :
    Brings [⟨name, key, data⟩] [] [] b { b with calls := ⟨name, key, data⟩ :: b.calls } :=
  ⟨rfl, rfl, rfl⟩

theorem brings_subscribe (key name : Text) (b : Board ε ν σ) :
    Brings [] [] [.subscribe key name] b { b with hub := b.hub.subscribe key name } :=
  ⟨rfl, rfl, Hub.subscribers_subscribe b.hub key name⟩

theorem brings_unsubscribe (key name : Text) (b : Board ε ν σ) :
    Brings [] [] [.unsubscribe key name] b { b with hub := b.hub.unsubscribe key name } :=
  ⟨rfl, rfl, Hub.subscribers_unsubscribe b.hub key name⟩

theorem brings_report (key : Text) (failure : Option ε) (b : Board ε ν σ) :
    Brings [] (failure.toList.map fun reason => (key, reason)) [] b (Conduct.report key (failure, b)) := by
  cases failure with
  | none => exact brings_refl b
  | some reason => exact ⟨rfl, rfl, rfl⟩

end

namespace Conduct

variable {c : Conduct α β ε ν σ}

mutual
theorem brings_of_takes (hc : c.Discreet) :
    ∀ {steps : List (Step α)} {b b' : Board ε ν σ} {course : Course ε} {failure : Option ε},
      c.Takes steps b course failure b' → Brings course.calls course.failures course.edits b b'
  | _, _, _, _, _, .done => brings_refl _
  | _, b, _, _, _, .subscribe h => (brings_subscribe _ _ b).trans (brings_of_takes hc h)
  | _, b, _, _, _, .unsubscribe h => (brings_unsubscribe _ _ b).trans (brings_of_takes hc h)
  | _, _, _, _, _, .post hvisits h => (brings_of_posts hc hvisits).trans (brings_of_takes hc h)
  | _, _, _, _, _, .act _ h => (brings_of_undisturbed (hc _ _)).trans (brings_of_takes hc h)
  | _, _, _, _, _, .stop _ => brings_of_undisturbed (hc _ _)
theorem brings_of_posts (hc : c.Discreet) :
    ∀ {key : Text} {data : Payload} {names : List Text} {b b' : Board ε ν σ} {visits : Visits ε},
      c.Posts key data names b visits b' → Brings (visits.calls key data) (visits.failures key) visits.edits b b'
  | _, _, _, _, _, _, .nobody => brings_refl _
  | key, data, _, b, _, _, .visit hcourse h => by
    -- the call itself, all that it leads to, the report if it fails, and then the later calls
    have hcall := (brings_call _ key data b).trans (brings_of_takes hc hcourse)
    have hrest := (brings_report key _ _).trans (brings_of_posts hc h)
    simpa [Visits.calls, Visits.failures, Visits.edits] using hcall.trans hrest
end

theorem names_of_posts : ∀ {key : Text} {data : Payload} {names : List Text} {b b' : Board ε ν σ} {visits : Visits ε},
    c.Posts key data names b visits b' → visits.names = names
  | _, _, _, _, _, _, .nobody => rfl
  | _, _, _, _, _, _, .visit _ h => congrArg (List.cons _) (names_of_posts h)

mutual
theorem timely_of_takes (hc : c.Discreet) :
    ∀ {steps : List (Step α)} {b b' : Board ε ν σ} {course : Course ε} {failure : Option ε},
      c.Takes steps b course failure b' → course.Timely b.hub.subscribers
  | _, _, _, _, _, .done => trivial
  | _, _, _, _, _, .subscribe h => by
    have hlater := timely_of_takes hc h
    rwa [Hub.subscribers_subscribe] at hlater
  | _, _, _, _, _, .unsubscribe h => by
    have hlater := timely_of_takes hc h
    rwa [Hub.subscribers_unsubscribe] at hlater
  | _, _, _, _, _, .post hvisits h => by
    -- what comes later finds the lists as the handlers of this post have left them
    have hlater := timely_of_takes hc h
    rw [(brings_of_posts hc hvisits).subscribers_eq] at hlater
    exact ⟨names_of_posts hvisits, timely_of_posts hc hvisits, hlater⟩
  | _, _, _, _, _, .act _ h => by
    have hlater := timely_of_takes hc h
    rwa [(hc _ _).hub_eq] at hlater
  | _, _, _, _, _, .stop _ => trivial
theorem timely_of_posts (hc : c.Discreet) :
    ∀ {key : Text} {data : Payload} {names : List Text} {b b' : Board ε ν σ} {visits : Visits ε},
      c.Posts key data names b visits b' → visits.Timely b.hub.subscribers
  | _, _, _, _, _, _, .nobody => trivial
  | _, _, _, _, _, _, .visit hcourse h => by
    have hcall := timely_of_takes hc hcourse
    have hlater := timely_of_posts hc h
    rw [(brings_report _ _ _).subscribers_eq, (brings_of_takes hc hcourse).subscribers_eq] at hlater
    exact ⟨hcall, hlater⟩
end

/-- The calls of a post are a tree of what the handlers do. It begins with the handlers that are subscribed when the
post begins, and so do the trees of the posts in it; new on the board are its calls, its failures and its edits. -/
structure Accounts (c : Conduct α β ε ν σ) (key : Text) (data : Payload) (b : Board ε ν σ) (visits : Visits ε)
    (b' : Board ε ν σ) : Prop where
  posts : c.Posts key data (b.hub.subscribers key) b visits b'
  names_eq : visits.names = b.hub.subscribers key
  timely : visits.Timely b.hub.subscribers
  brings : Brings (visits.calls key data) (visits.failures key) visits.edits b b'

/-- A post in which posts do not nest endlessly comes to its end without a failure, whatever the handlers do. -/
theorem exists_run_post (hc : c.Discreet) {key : Text} {data : Payload} {b : Board ε ν σ}
    (hends : Acc c.Within (.post key data, b)) :
    ∃ n visits b', (∀ m, n ≤ m → c.run m (.post key data) b = some (.ok c.done, b')) ∧
      c.Accounts key data b visits b' := by
  obtain ⟨n, ⟨r, b'⟩, hrun⟩ := exists_run_iff.2 hends
  obtain ⟨rfl, visits, hposts⟩ := exists_posts_of_run hrun
  refine ⟨n, visits, b', fun m hnm => run_mono hnm _ b _ hrun, ?_⟩
  exact ⟨hposts, names_of_posts hposts, timely_of_posts hc hposts, brings_of_posts hc hposts⟩

/-- One handler leaves the list and posts again, one adds a third to the list and fails. -/
def restless : Text → Handler Session.Action Session.Failure
  | ['a'] => ⟨[.unsubscribe ['k'] ['a'], .post ['k'] []], none⟩
  | ['b'] => ⟨[.subscribe ['k'] ['c']], some (.handler ['b'])⟩
  | _ => ⟨[], none⟩

theorem exists_run_post_restless :
    let b : Session.Desk := ⟨⟨.ofList [(['k'], [['a'], ['b'], ['a']])]⟩, [], [],
      ⟨.plain [], ⟨⟨0, .unknown⟩, .default⟩, .hub, false⟩⟩
    let c := Session.conduct restless
    c.Discreet ∧ Acc c.Within (.post ['k'] [], b) ∧
      ∃ n visits b', (∀ m, n ≤ m → c.run m (.post ['k'] []) b = some (.ok .done, b')) ∧
        c.Accounts ['k'] [] b visits b' := by
  intro b c
  have hdiscreet : c.Discreet := Session.discreet_conduct restless
  have hresult : (c.run 5 (.post ['k'] []) b).isSome := by decide
  obtain ⟨r, hrun⟩ := Option.isSome_iff_exists.1 hresult
  have hends : Acc c.Within (.post ['k'] [], b) := acc_of_run hrun
  exact ⟨hdiscreet, hends, exists_run_post hdiscreet hends⟩

end Conduct

end MudClient.Events
