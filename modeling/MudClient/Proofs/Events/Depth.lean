import MudClient.Events.Board

/-!
# How deep posts nest

* `Extends`: a way to take steps that has all results of another
* `Conduct.run_mono`: the bound of a run does not matter if it is large enough
* `Conduct.Within`: the steps that are taken in the course of a step
* `Conduct.exists_run_iff`: a run has a result exactly if there is no endless chain of steps within steps
-/

set_option autoImplicit false

namespace MudClient.Events

variable {α β ε ν σ : Type}

/-- All that can be done the first way can be done the second way, with the same result. -/
def Extends (step step' : Step α → Board ε ν σ → Option (Except ε β × Board ε ν σ)) : Prop :=
  ∀ s b r, step s b = some r → step' s b = some r

namespace Conduct

variable {c : Conduct α β ε ν σ}
variable {step step' : Step α → Board ε ν σ → Option (Except ε β × Board ε ν σ)}
variable {key : Text} {data : Payload} {name : Text} {names : List Text}
variable {s s' : Step α} {steps : List (Step α)} {b b' : Board ε ν σ}

/-! ## The bound -/

theorem runAll_mono (hstep : Extends step step') {r : Option ε × Board ε ν σ} (h : runAll step steps b = some r) :
    runAll step' steps b = some r := by
  induction steps generalizing b with
  | nil => exact h
  | cons s rest ih =>
    rw [runAll] at h ⊢
    cases hs : step s b with
    | none =>
      rw [hs] at h
      cases h
    | some t =>
      rw [hs] at h
      rw [hstep s b t hs]
      obtain ⟨reason | answer, b₁⟩ := t
      · exact h
      · exact ih h

theorem call_mono (hstep : Extends step step') {r : Option ε × Board ε ν σ}
    (h : c.call step key data name b = some r) : c.call step' key data name b = some r := by
  rw [call] at h ⊢
  split at h
  · cases h
  · next hsteps => rwa [runAll_mono hstep hsteps]
  · next hsteps => rwa [runAll_mono hstep hsteps]

theorem callAll_mono (hstep : Extends step step') (h : c.callAll step key data names b = some b') :
    c.callAll step' key data names b = some b' := by
  induction names generalizing b with
  | nil => exact h
  | cons name names ih =>
    rw [callAll] at h ⊢
    split at h
    · cases h
    · next hcall =>
      rw [call_mono hstep hcall]
      exact ih h
    · next hcall =>
      rw [call_mono hstep hcall]
      exact ih h

theorem extends_run_succ (c : Conduct α β ε ν σ) (n : Nat) : Extends (c.run n) (c.run (n + 1)) := by
  induction n with
  | zero => exact nofun
  | succ n ih =>
    intro s b r h
    cases s with
    | subscribe key name => exact h
    | unsubscribe key name => exact h
    | post key data =>
      obtain ⟨b', hcalls, rfl⟩ := Option.map_eq_some_iff.1 h
      exact Option.map_eq_some_iff.2 ⟨b', callAll_mono ih hcalls, rfl⟩
    | act action =>
      simp only [run] at h ⊢
      split at h
      · exact h
      · obtain ⟨r', hnext, rfl⟩ := Option.map_eq_some_iff.1 h
        exact Option.map_eq_some_iff.2 ⟨r', runAll_mono ih hnext, rfl⟩

theorem run_mono {n m : Nat} (hnm : n ≤ m) : Extends (c.run n) (c.run m) := by
  induction hnm with
  | refl => exact fun _ _ _ h => h
  | step _ ih => exact fun s b r h => extends_run_succ c _ s b r (ih s b r h)

/-! ## Steps within steps -/

/-- A step of a list is taken on a board, after the ones before it. -/
def Reaches (c : Conduct α β ε ν σ) (steps : List (Step α)) (b : Board ε ν σ) (s : Step α) (b' : Board ε ν σ) :
    Prop :=
  ∃ n before after, steps = before ++ s :: after ∧ runAll (c.run n) before b = some (none, b')

/-- A handler of a list is called on a board, after the ones before it. -/
def Calls (c : Conduct α β ε ν σ) (key : Text) (data : Payload) (names : List Text) (b : Board ε ν σ) (name : Text)
    (b' : Board ε ν σ) : Prop :=
  ∃ n before after, names = before ++ name :: after ∧ c.callAll (c.run n) key data before b = some b'

/-- The first step is taken, each on its board, in the course of the second one: after an action of the client's own,
or by a handler to which the second one posts. -/
inductive Within (c : Conduct α β ε ν σ) : Step α × Board ε ν σ → Step α × Board ε ν σ → Prop
  | act {action : α} {answer : β} {b b' : Board ε ν σ} {s : Step α} :
    (c.act action b).result = .ok answer → c.Reaches (c.act action b).next (c.act action b).board s b' →
      Within c (s, b') (.act action, b)
  | post {key : Text} {data : Payload} {name : Text} {b b₁ b' : Board ε ν σ} {s : Step α} :
    c.Calls key data (b.hub.subscribers key) b name b₁ →
      c.Reaches (c.handler name).steps { b₁ with calls := ⟨name, key, data⟩ :: b₁.calls } s b' →
        Within c (s, b') (.post key data, b)

theorem Reaches.cons {n : Nat} {answer : β} {b₁ : Board ε ν σ} (hs : c.run n s b = some (.ok answer, b₁))
    (h : c.Reaches steps b₁ s' b') : c.Reaches (s :: steps) b s' b' := by
  obtain ⟨m, before, after, rfl, hbefore⟩ := h
  refine ⟨max n m, s :: before, after, rfl, ?_⟩
  rw [runAll, run_mono (Nat.le_max_left n m) s b _ hs]
  exact runAll_mono (run_mono (Nat.le_max_right n m)) hbefore

theorem exists_runAll (h : ∀ s b', c.Reaches steps b s b' → ∃ n r, c.run n s b' = some r) :
    ∃ n r, runAll (c.run n) steps b = some r := by
  induction steps generalizing b with
  | nil => exact ⟨0, _, rfl⟩
  | cons s rest ih =>
    obtain ⟨n, ⟨reason | answer, b₁⟩, hs⟩ := h s b ⟨0, [], rest, rfl, rfl⟩
    · exact ⟨n, (some reason, b₁), by rw [runAll, hs]⟩
    · obtain ⟨m, r, hrest⟩ := ih fun s' b' hreach => h s' b' (hreach.cons hs)
      refine ⟨max n m, r, ?_⟩
      rw [runAll, run_mono (Nat.le_max_left n m) s b _ hs]
      exact runAll_mono (run_mono (Nat.le_max_right n m)) hrest

/-- What is left on the board when a call comes to its end: the failure is reported if there is one. -/
def report (key : Text) : Option ε × Board ε ν σ → Board ε ν σ
  | (none, b) => b
  | (some reason, b) => { b with log := .handlerFailed key reason :: b.log }

theorem callAll_cons (c : Conduct α β ε ν σ) (b : Board ε ν σ) : c.callAll step key data (name :: names) b =
    (c.call step key data name b).bind fun r => c.callAll step key data names (report key r) := by
  rw [callAll]
  rcases c.call step key data name b with _ | ⟨_ | reason, b₁⟩ <;> rfl

theorem Calls.cons {n : Nat} {name' : Text} {r : Option ε × Board ε ν σ}
    (hcall : c.call (c.run n) key data name b = some r) (h : c.Calls key data names (report key r) name' b') :
    c.Calls key data (name :: names) b name' b' := by
  obtain ⟨m, before, after, rfl, hbefore⟩ := h
  refine ⟨max n m, name :: before, after, rfl, ?_⟩
  rw [callAll_cons, call_mono (run_mono (Nat.le_max_left n m)) hcall]
  exact callAll_mono (run_mono (Nat.le_max_right n m)) hbefore

theorem exists_callAll
    (h : ∀ name b', c.Calls key data names b name b' → ∃ n r, c.call (c.run n) key data name b' = some r) :
    ∃ n b', c.callAll (c.run n) key data names b = some b' := by
  induction names generalizing b with
  | nil => exact ⟨0, b, rfl⟩
  | cons name names ih =>
    obtain ⟨n, r, hcall⟩ := h name b ⟨0, [], names, rfl, rfl⟩
    obtain ⟨m, b', hrest⟩ := ih fun name' b' hcalls => h name' b' (hcalls.cons hcall)
    refine ⟨max n m, b', ?_⟩
    rw [callAll_cons, call_mono (run_mono (Nat.le_max_left n m)) hcall]
    exact callAll_mono (run_mono (Nat.le_max_right n m)) hrest

theorem exists_call {n : Nat} {r : Option ε × Board ε ν σ}
    (h : runAll (c.run n) (c.handler name).steps { b with calls := ⟨name, key, data⟩ :: b.calls } = some r) :
    ∃ r', c.call (c.run n) key data name b = some r' := by
  rw [call, h]
  obtain ⟨_ | reason, b'⟩ := r
  · exact ⟨_, rfl⟩
  · exact ⟨_, rfl⟩

theorem exists_run_of_within (h : ∀ s' b', c.Within (s', b') (s, b) → ∃ n r, c.run n s' b' = some r) :
    ∃ n r, c.run n s b = some r := by
  cases s with
  | subscribe key name => exact ⟨1, _, rfl⟩
  | unsubscribe key name => exact ⟨1, _, rfl⟩
  | post key data =>
    have hcall : ∀ name b₁, c.Calls key data (b.hub.subscribers key) b name b₁ →
        ∃ n r, c.call (c.run n) key data name b₁ = some r := by
      intro name b₁ hcalls
      obtain ⟨n, r, hsteps⟩ := exists_runAll fun s' b' hreach => h s' b' (.post hcalls hreach)
      exact ⟨n, exists_call hsteps⟩
    obtain ⟨n, b', hcalls⟩ := exists_callAll hcall
    exact ⟨n + 1, _, Option.map_eq_some_iff.2 ⟨b', hcalls, rfl⟩⟩
  | act action =>
    cases hresult : (c.act action b).result with
    | error reason => exact ⟨1, (.error reason, (c.act action b).board), by simp only [run, hresult]⟩
    | ok answer =>
      obtain ⟨n, r, hnext⟩ := exists_runAll fun s' b' hreach => h s' b' (.act hresult hreach)
      exact ⟨n + 1, (r.1.elim (.ok answer) .error, r.2), by simp only [run, hresult, hnext, Option.map_some]⟩

/-! ## Bounds from results -/

theorem exists_step_of_runAll (hstep : Extends step step') {before after : List (Step α)}
    {r : Option ε × Board ε ν σ} (h : runAll step (before ++ s :: after) b = some r)
    (hbefore : runAll step' before b = some (none, b')) : ∃ r', step s b' = some r' := by
  induction before generalizing b with
  | nil =>
    obtain rfl : b = b' := (Prod.mk.inj (Option.some.inj hbefore)).2
    rw [List.nil_append, runAll] at h
    cases hs : step s b with
    | none =>
      rw [hs] at h
      cases h
    | some r' => exact ⟨r', rfl⟩
  | cons s₀ before ih =>
    rw [List.cons_append, runAll] at h
    rw [runAll] at hbefore
    cases hs : step s₀ b with
    | none =>
      rw [hs] at h
      cases h
    | some t =>
      rw [hs] at h
      rw [hstep s₀ b t hs] at hbefore
      obtain ⟨reason | answer, b₁⟩ := t
      · cases hbefore
      · exact ih h hbefore

theorem exists_call_of_callAll (hstep : Extends step step') {before after : List Text} {b'' : Board ε ν σ}
    (h : c.callAll step key data (before ++ name :: after) b = some b'')
    (hbefore : c.callAll step' key data before b = some b') : ∃ r, c.call step key data name b' = some r := by
  induction before generalizing b with
  | nil =>
    obtain rfl : b = b' := Option.some.inj hbefore
    rw [List.nil_append, callAll_cons] at h
    obtain ⟨r, hcall, -⟩ := Option.bind_eq_some_iff.1 h
    exact ⟨r, hcall⟩
  | cons name₀ before ih =>
    rw [List.cons_append, callAll_cons] at h
    obtain ⟨r, hcall, hrest⟩ := Option.bind_eq_some_iff.1 h
    rw [callAll_cons, call_mono hstep hcall] at hbefore
    exact ih hrest hbefore

/-- A call takes the steps of its handler, which fails where it stops, or else in the end if it is to. -/
theorem exists_runAll_of_call {r : Option ε × Board ε ν σ} (h : c.call step key data name b = some r) :
    ∃ stopped b', runAll step (c.handler name).steps { b with calls := ⟨name, key, data⟩ :: b.calls } =
      some (stopped, b') ∧ r = (stopped.or (c.handler name).failure, b') := by
  rw [call] at h
  split at h
  · cases h
  · next hsteps => exact ⟨_, _, hsteps, (Option.some.inj h).symm⟩
  · next hsteps => exact ⟨_, _, hsteps, (Option.some.inj h).symm⟩

theorem exists_run_of_reaches {n : Nat} {r : Option ε × Board ε ν σ} (h : runAll (c.run n) steps b = some r)
    (hreach : c.Reaches steps b s b') : ∃ r', c.run n s b' = some r' := by
  obtain ⟨m, before, after, rfl, hbefore⟩ := hreach
  exact exists_step_of_runAll (run_mono (Nat.le_max_left n m)) h
    (runAll_mono (run_mono (Nat.le_max_right n m)) hbefore)

/-- A step within one that has a result has one itself, and needs less of a bound. -/
theorem exists_run_of_run {n : Nat} {r : Except ε β × Board ε ν σ} (h : c.run (n + 1) s b = some r)
    (hwithin : c.Within (s', b') (s, b)) : ∃ r', c.run n s' b' = some r' := by
  cases hwithin with
  | act hresult hreach =>
    simp only [run, hresult] at h
    obtain ⟨r', hnext, -⟩ := Option.map_eq_some_iff.1 h
    exact exists_run_of_reaches hnext hreach
  | post hcalls hreach =>
    obtain ⟨b'', hall, -⟩ := Option.map_eq_some_iff.1 h
    obtain ⟨m, before, after, hnames, hbefore⟩ := hcalls
    rw [hnames] at hall
    obtain ⟨r', hcall⟩ := exists_call_of_callAll (run_mono (Nat.le_max_left n m)) hall
      (callAll_mono (run_mono (Nat.le_max_right n m)) hbefore)
    obtain ⟨stopped, b₂, hsteps, -⟩ := exists_runAll_of_call hcall
    exact exists_run_of_reaches hsteps hreach

theorem acc_of_run {n : Nat} {r : Except ε β × Board ε ν σ} (h : c.run n s b = some r) : Acc c.Within (s, b) := by
  induction n generalizing s b r with
  | zero => cases h
  | succ n ih =>
    -- what is within a step has a result for a bound that is smaller by one
    refine ⟨_, fun inner hwithin => ?_⟩
    obtain ⟨r', hinner⟩ := exists_run_of_run h hwithin
    exact ih hinner

/-- A step has a result exactly if there is no endless chain of steps within steps that starts with it. -/
theorem exists_run_iff : (∃ n r, c.run n s b = some r) ↔ Acc c.Within (s, b) := by
  constructor
  · rintro ⟨n, r, h⟩
    exact acc_of_run h
  · intro hacc
    generalize hp : (s, b) = p at hacc
    induction hacc generalizing s b with
    | intro p _ ih =>
      subst hp
      exact exists_run_of_within fun s' b' hwithin => ih (s', b') hwithin rfl

end Conduct

end MudClient.Events
