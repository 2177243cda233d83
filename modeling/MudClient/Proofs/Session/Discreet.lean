import MudClient.Session.Run

/-!
# Clients that leave the hub alone

* `failures`: the failures of handlers that are in a log
* `Undisturbed`, `Conduct.Discreet`: clients whose own actions leave the hub, the calls and the failures alone
* `Session.discreet_conduct`: a session is such a client
-/

set_option autoImplicit false

namespace MudClient.Events

variable {α β ε ν σ : Type}

def Entry.failure? : Entry ε ν → Option (Text × ε)
  | handlerFailed key reason => some (key, reason)
  | noted _ => none

/-- The failures of handlers that are in a log. -/
def failures (log : List (Entry ε ν)) : List (Text × ε) :=
  log.filterMap Entry.failure?

theorem failures_noted_append (notices : List ν) (log : List (Entry ε ν)) :
    failures ((notices.map Entry.noted).reverse ++ log) = failures log := by
  have hnoted : (notices.map Entry.noted).reverse.filterMap (Entry.failure? (ε := ε)) = [] := by
    rw [← List.map_reverse, List.filterMap_map, List.filterMap_eq_nil_iff]
    exact fun _ _ => rfl
  rw [failures, List.filterMap_append, hnoted, List.nil_append, failures]

/-- The second board has the hub, the calls and the failures of the first one. -/
structure Undisturbed (b b' : Board ε ν σ) : Prop where
  hub_eq : b'.hub = b.hub
  calls_eq : b'.calls = b.calls
  failures_eq : failures b'.log = failures b.log

theorem undisturbed_refl (b : Board ε ν σ) : Undisturbed b b := ⟨rfl, rfl, rfl⟩

theorem Undisturbed.trans {b b₁ b' : Board ε ν σ} (h : Undisturbed b b₁) (h' : Undisturbed b₁ b') : Undisturbed b b' :=
  ⟨h'.hub_eq.trans h.hub_eq, h'.calls_eq.trans h.calls_eq, h'.failures_eq.trans h.failures_eq⟩

/-- The client's own actions work on the rest of the board only. What they do to the hub are the steps that they ask
for. -/
def Conduct.Discreet (c : Conduct α β ε ν σ) : Prop :=
  ∀ action b, Undisturbed b (c.act action b).board

end MudClient.Events

/-! ## Sessions -/

namespace MudClient.Session

open Events (Undisturbed failures_noted_append undisturbed_refl)
open Markup (Tag)
open MudClient.Stream (GameEvent Receiver)
open Variables (Store StoreCall StoreNotice)

theorem undisturbed_putStore (d : Desk) (written : Store × List StoreNotice) : Undisturbed d (d.putStore written) := by
  refine ⟨rfl, rfl, ?_⟩
  have hnotices := failures_noted_append (ε := Failure) (written.2.map Notice.store) d.log
  rwa [List.map_map] at hnotices

theorem undisturbed_accept (w : Watch) (events : List GameEvent) (d : Desk) (seen : List Sight) :
    Undisturbed d ((watcher w).accept events (d, seen)).2.1 := by
  refine Receiver.accept_induction (P := fun s : Desk × List Sight => Undisturbed d s.1)
    (fun key value s h => ?_) (fun event s h => ?_) events (undisturbed_refl d)
  · simp only [watcher]
    split
    · exact h.trans (undisturbed_putStore s.1 _)
    · exact h
  · simp only [watcher]
    split <;> exact h

theorem undisturbed_classify (d : Desk) (tags : List Tag) (w : Watch) : Undisturbed d (classify d tags w).board := by
  rw [classify]
  split
  · exact undisturbed_refl d
  · next events _ =>
    have haccept := undisturbed_accept w events d []
    split
    · next heq =>
      rw [heq] at haccept
      exact haccept
    · next heq =>
      rw [heq] at haccept
      exact haccept

theorem undisturbed_classifyLine (d : Desk) (line : Text) (w : Watch) :
    Undisturbed d (classifyLine d line w).board := by
  have hnotices := failures_noted_append (ε := Failure) ((Markup.readLine line).2.map Notice.markup) d.log
  rw [List.map_map] at hnotices
  have hread : Undisturbed d
      { d with log := ((Markup.readLine line).2.map (Events.Entry.noted ∘ Notice.markup)).reverse ++ d.log } :=
    ⟨rfl, rfl, hnotices⟩
  exact hread.trans (undisturbed_classify _ _ w)

theorem undisturbed_settled {ε : Type} (d : Desk) (wrap : ε → Failure) (result : Except ε Answer) :
    Undisturbed d (settled d wrap result).board := by
  cases result <;> exact undisturbed_refl d

theorem undisturbed_settle (d : Desk) : Undisturbed d (settle d).board := by
  rw [settle]
  split <;> exact undisturbed_refl d

theorem undisturbed_deliver (d : Desk) : Undisturbed d (deliver d).board := by
  rw [deliver]
  split
  · exact undisturbed_refl d
  · simp only
    split <;> exact ⟨rfl, rfl, rfl⟩

theorem undisturbed_perform (action : Action) (d : Desk) : Undisturbed d (perform action d).board := by
  cases action with
  | get | contains | isDynamic | size | snapshot | keys | evaluateLiteral => exact undisturbed_refl d
  | remove | set | clear => exact undisturbed_putStore d _
  | flush => exact undisturbed_settle d
  | close =>
    have hcall : Undisturbed d (d.call .close) := undisturbed_putStore d _
    simp only [perform]
    split
    · exact hcall
    · exact hcall.trans (undisturbed_settle _)
  | addDynamic key kind =>
    simp only [perform]
    split
    · exact undisturbed_putStore d _
    · exact undisturbed_refl d
  | evaluateComputed | expand => exact undisturbed_settled d _ _
  | tick | delivered => exact ⟨rfl, rfl, rfl⟩
  | script line =>
    simp only [perform]
    split
    · exact undisturbed_refl d
    · exact undisturbed_settled d _ _
  | stream line w => exact undisturbed_classifyLine d line w
  | classify tags w => exact undisturbed_classify d tags w
  | deliver => exact undisturbed_deliver d

theorem discreet_conduct (handler : Text → Events.Handler Action Failure) : (conduct handler).Discreet :=
  undisturbed_perform

end MudClient.Session
