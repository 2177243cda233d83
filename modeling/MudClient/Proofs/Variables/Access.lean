import MudClient.Proofs.Concurrency.Counting
import MudClient.Variables.Access

/-!
# What clients at one store can do

* `Shared.Acts`, `Shared.acts_of_act?`: what an action can be, case by case
* `Shared.Effect`: what an action may change of the shared state
* `Shared.Fits`: what the shared state is while a client is at a stage
* `Access.step?_cases`: a step is an action of a client, or leaves alone what clients do
* `Access.exists_run?_set`: the actions of a client that sets a variable come to what a set does
* `Access.Sound`, `Access.sound_step`: what holds in every state that clients can reach
-/

set_option autoImplicit false

namespace MudClient.Variables

open Concurrency (System)

/-! ## A set in steps -/

theorem Store.set_eq_assign? (s : Store) (r : Reading) (key : Text) (value : Option Text) :
    s.set r key value =
      match s.assign? r key value with
      | none => (s, [])
      | some (store, change) => store.notify change := by
  rw [set, assign?]
  by_cases hdynamic : s.isDynamic key
  · simp [hdynamic]
  · by_cases hsame : (s.bindings.get? key).any fun b => b.evaluate r == some (value.getD [])
    · simp [hsame]
    · simp [hdynamic, hsame]

namespace Shared

variable {s s' : Shared} {client other : Nat} {stage stage' : Stage} {action : Action} {job : Job}

/-- What an action can be, case by case. -/
inductive Acts (s : Shared) (client : Nat) : Stage → Action → Shared → Stage → Prop
  | set (reading : Reading) (key : Text) (value : Option Text) (s' : Shared)
    (h : s.move? (.ask client .write) = some s') : Acts s client .idle (.set reading key value) s'
      (.setting reading key value)
  | close (s' : Shared) (h : s.move? (.ask client .write) = some s') : Acts s client .idle .close s' .closing
  | flushClosed (h : s.store.closed = true) : Acts s client .idle .flush s .idle
  | flushOpen (h : s.store.closed = false) : Acts s client .idle .flush s .flushing
  | bindNothing (reading : Reading) (key : Text) (value : Option Text) (h : s.Writing client) :
    Acts s client (.setting reading key value) .bind s .leaving
  | bind (reading : Reading) (key : Text) (value : Option Text) (store : Store) (change : Change)
    (h : s.Writing client) (hassign : s.store.assign? reading key value = some (store, change)) :
    Acts s client (.setting reading key value) .bind { s with store := store } (.notifying change)
  | checkClosed (change : Change) (log : List StoreNotice) :
    Acts s client (.notifying change) .check { s with log := log } .leaving
  | checkOpen (change : Change) (h : s.store.closed = false) :
    Acts s client (.notifying change) .check s (.submitting change)
  | submitChange (change : Change) :
    Acts s client (.submitting change) .submit (s.submit client (.post change)) .leaving
  | submitNothing :
    Acts s client .flushing .submit (s.submit client (.nothing client)) (if s.shut then .idle else .awaiting)
  | leave (s' : Shared) (h : s.move? (.leave client) = some s') : Acts s client .leaving .leave s' .idle
  | finish : Acts s client .awaiting .finish s .idle
  | giveUp : Acts s client .awaiting .giveUp s .idle
  | mark (h : s.Writing client) : Acts s client .closing .mark { s with store := s.store.close } .marked
  | leaveMarked (s' : Shared) (h : s.move? (.leave client) = some s') : Acts s client .marked .leave s' .shutting
  | shut : Acts s client .shutting .shut { s with shut := true } .joining
  | join : Acts s client .joining .join s .idle

theorem acts_idle (h : s.act? client .idle action = some (s', stage')) : Acts s client .idle action s' stage' := by
  cases action with
  | set reading key value =>
    obtain ⟨s', hmove, ⟨⟩⟩ := Option.map_eq_some_iff.1 h
    exact .set reading key value s' hmove
  | close =>
    obtain ⟨s', hmove, ⟨⟩⟩ := Option.map_eq_some_iff.1 h
    exact .close s' hmove
  | flush =>
    obtain ⟨⟩ := h
    cases hclosed : s.store.closed with
    | true => exact .flushClosed hclosed
    | false => exact .flushOpen hclosed
  | _ => cases h

theorem acts_setting {reading : Reading} {key : Text} {value : Option Text}
    (h : s.act? client (.setting reading key value) action = some (s', stage')) :
    Acts s client (.setting reading key value) action s' stage' := by
  cases action with
  | bind =>
    obtain ⟨hwriting, h⟩ := Option.ite_none_right_eq_some.1 h
    cases hassign : s.store.assign? reading key value with
    | none =>
      rw [hassign] at h
      obtain ⟨⟩ := h
      exact .bindNothing reading key value hwriting
    | some p =>
      rw [hassign] at h
      obtain ⟨⟩ := h
      exact .bind reading key value p.1 p.2 hwriting hassign
  | _ => cases h

theorem acts_notifying {change : Change} (h : s.act? client (.notifying change) action = some (s', stage')) :
    Acts s client (.notifying change) action s' stage' := by
  cases action with
  | check =>
    rw [act?] at h
    split at h
    · obtain ⟨⟩ := h
      exact .checkClosed change s.log
    split at h
    · obtain ⟨⟩ := h
      exact .checkClosed change _
    · next hclosed =>
      obtain ⟨⟩ := h
      exact .checkOpen change (Bool.eq_false_iff.2 hclosed)
  | _ => cases h

theorem acts_awaiting (h : s.act? client .awaiting action = some (s', stage')) :
    Acts s client .awaiting action s' stage' := by
  cases action with
  | finish =>
    obtain ⟨-, ⟨⟩⟩ := Option.ite_none_left_eq_some.1 h
    exact .finish
  | giveUp =>
    obtain ⟨⟩ := h
    exact .giveUp
  | _ => cases h

theorem acts_of_act? (h : s.act? client stage action = some (s', stage')) : Acts s client stage action s' stage' := by
  cases stage with
  | idle => exact acts_idle h
  | setting reading key value => exact acts_setting h
  | notifying change => exact acts_notifying h
  | awaiting => exact acts_awaiting h
  -- At any other stage there is one action that can be taken.
  | submitting change =>
    cases action with
    | submit =>
      obtain ⟨⟩ := h
      exact .submitChange change
    | _ => cases h
  | leaving =>
    cases action with
    | leave =>
      obtain ⟨s', hmove, ⟨⟩⟩ := Option.map_eq_some_iff.1 h
      exact .leave s' hmove
    | _ => cases h
  | flushing =>
    cases action with
    | submit =>
      obtain ⟨⟩ := h
      exact .submitNothing
    | _ => cases h
  | closing =>
    cases action with
    | mark =>
      obtain ⟨hwriting, ⟨⟩⟩ := Option.ite_none_right_eq_some.1 h
      exact .mark hwriting
    | _ => cases h
  | marked =>
    cases action with
    | leave =>
      obtain ⟨s', hmove, ⟨⟩⟩ := Option.map_eq_some_iff.1 h
      exact .leaveMarked s' hmove
    | _ => cases h
  | shutting =>
    cases action with
    | shut =>
      obtain ⟨⟩ := h
      exact .shut
    | _ => cases h
  | joining =>
    cases action with
    | join =>
      obtain ⟨-, ⟨⟩⟩ := Option.ite_none_right_eq_some.1 h
      exact .join
    | _ => cases h

/-! ## What an action leaves alone -/

theorem move?_eq_some {m : Concurrency.Move} (h : s.move? m = some s') :
    ∃ lock, s.lock.step? m = some lock ∧ s' = { s with lock := lock } := by
  obtain ⟨lock, hstep, rfl⟩ := Option.map_eq_some_iff.1 h
  exact ⟨lock, hstep, rfl⟩

theorem exists_of_assign? {store s : Store} {r : Reading} {key : Text} {value : Option Text} {change : Change}
    (h : s.assign? r key value = some (store, change)) : ∃ bindings, store = { s with bindings := bindings } := by
  rw [Store.assign?] at h
  split at h
  · cases h
  · obtain ⟨rfl, -⟩ := Prod.mk.inj (Option.some.inj h)
    exact ⟨_, rfl⟩

/-- What an action of a client may change of the shared state, and how. -/
structure Effect (s : Shared) (client : Nat) (stage : Stage) (action : Action) (s' : Shared) : Prop where
  /-- Only a client that has the lock to itself marks the store as closed, and nothing takes the mark away. -/
  closed : s'.store.closed = s.store.closed ∨ action = .mark ∧ s.Writing client ∧ s'.store.closed = true
  shut : s'.shut = s.shut ∨ stage = .shutting ∧ action = .shut ∧ s'.shut = true
  /-- A client asks for the lock and leaves it for itself alone. -/
  lock : s'.lock = s.lock ∨ ∃ m, s.lock.step? m = some s'.lock ∧ ∀ other, other ≠ client → m ≠ .leave other
  refused : s'.refused = s.refused ∨ s.shut = true ∧ action = .submit ∧ ∃ job,
    s'.refused = s.refused ++ [(client, job)] ∧
      (stage = .flushing ∧ job = .nothing client ∨ ∃ change, stage = .submitting change ∧ job = .post change)

theorem effect_move {m : Concurrency.Move} (h : s.move? m = some s')
    (hleave : ∀ other, other ≠ client → m ≠ .leave other) : Effect s client stage action s' := by
  obtain ⟨lock, hstep, rfl⟩ := move?_eq_some h
  exact ⟨.inl rfl, .inl rfl, .inr ⟨m, hstep, hleave⟩, .inl rfl⟩

theorem effect_submit
    (hjob : stage = .flushing ∧ job = .nothing client ∨ ∃ change, stage = .submitting change ∧ job = .post change) :
    Effect s client stage .submit (s.submit client job) := by
  rw [submit]
  split
  · next hshut => exact ⟨.inl rfl, .inl rfl, .inl rfl, .inr ⟨hshut, rfl, job, rfl, hjob⟩⟩
  · exact ⟨.inl rfl, .inl rfl, .inl rfl, .inl rfl⟩

theorem Acts.effect (h : Acts s client stage action s' stage') : Effect s client stage action s' := by
  cases h with
  | set _ _ _ _ h | close _ h => exact effect_move h nofun
  | leave _ h | leaveMarked _ h =>
    refine effect_move h fun other hne heq => hne ?_
    cases heq
    rfl
  | bind _ _ _ store change _ hassign =>
    obtain ⟨bindings, rfl⟩ := exists_of_assign? hassign
    exact ⟨.inl rfl, .inl rfl, .inl rfl, .inl rfl⟩
  | submitChange change => exact effect_submit (.inr ⟨change, rfl, rfl⟩)
  | submitNothing => exact effect_submit (.inl ⟨rfl, rfl⟩)
  | mark h => exact ⟨.inr ⟨rfl, h, rfl⟩, .inl rfl, .inl rfl, .inl rfl⟩
  | shut => exact ⟨.inl rfl, .inr ⟨rfl, rfl, rfl⟩, .inl rfl, .inl rfl⟩
  | _ => exact ⟨.inl rfl, .inl rfl, .inl rfl, .inl rfl⟩

theorem Effect.stays_closed (h : Effect s client stage action s') (hclosed : s.store.closed = true) :
    s'.store.closed = true := by
  rcases h.closed with heq | ⟨-, -, hclosed'⟩
  · exact heq.trans hclosed
  · exact hclosed'

theorem Effect.stays_shut (h : Effect s client stage action s') (hshut : s.shut = true) : s'.shut = true := by
  rcases h.shut with heq | ⟨-, -, hshut'⟩
  · exact heq.trans hshut
  · exact hshut'

theorem Effect.reachable (h : Effect s client stage action s') (hreach : s.lock.Reachable) : s'.lock.Reachable := by
  rcases h.lock with heq | ⟨m, hstep, -⟩
  · rwa [heq]
  · exact hreach.step hstep

theorem Effect.writing (h : Effect s client stage action s') (hne : other ≠ client) (hwriting : s.Writing other) :
    s'.Writing other := by
  rcases h.lock with heq | ⟨m, hstep, hleave⟩
  · rwa [Writing, heq]
  · exact System.inside_of_step? hstep hwriting (hleave other hne)

/-! ## What a stage says of the shared state -/

/-- What the shared state is while a client is at a stage. -/
def Fits (s : Shared) (client : Nat) : Stage → Prop
  | .notifying _ | .leaving => s.Writing client
  | .submitting _ => s.Writing client ∧ s.store.closed = false
  | .marked => s.Writing client ∧ s.store.closed = true
  | .shutting | .joining => s.store.closed = true
  | _ => True

theorem Fits.mono (h : s.Fits client stage) (hwriting : s.Writing client → s'.Writing client)
    (hclosed : s.store.closed = true → s'.store.closed = true)
    (hopen : s.Writing client → s.store.closed = false → s'.store.closed = false) : s'.Fits client stage := by
  cases stage with
  | notifying | leaving => exact hwriting h
  | submitting => exact ⟨hwriting h.1, hopen h.1 h.2⟩
  | marked => exact ⟨hwriting h.1, hclosed h.2⟩
  | shutting | joining => exact hclosed h
  | _ => exact trivial

theorem Acts.fits (h : Acts s client stage action s' stage') (hfits : s.Fits client stage) :
    s'.Fits client stage' := by
  cases h with
  | bindNothing _ _ _ h | bind _ _ _ _ _ h => exact h
  | checkClosed => exact hfits
  | checkOpen _ h => exact ⟨hfits, h⟩
  | submitChange =>
    rw [submit]
    split <;> exact hfits.1
  | submitNothing => split <;> exact trivial
  | mark h => exact ⟨h, rfl⟩
  | leaveMarked _ h =>
    obtain ⟨lock, -, rfl⟩ := move?_eq_some h
    exact hfits.2
  | shut => exact hfits
  | _ => exact trivial

/-- The stage of another client goes on fitting: while that client has the lock, nobody marks the store as closed. -/
theorem Effect.fits (h : Effect s client stage action s') (hreach : s.lock.Reachable) (hne : other ≠ client)
    (hfits : s.Fits other stage') : s'.Fits other stage' := by
  refine hfits.mono (h.writing hne) h.stays_closed fun hwriting hopen => ?_
  rcases h.closed with heq | ⟨-, hmarks, -⟩
  · exact heq.trans hopen
  · exact absurd (System.eq_of_inside_write hreach hwriting hmarks) hne

/-! ## Stages after an action -/

theorem Acts.of_marked (h : Acts s client stage action s' stage') (hstage : stage' = .marked ∨ stage' = .shutting) :
    action = .mark ∨ stage = .marked := by
  cases h with
  | mark => exact .inl rfl
  | leaveMarked => exact .inr rfl
  | submitNothing => split at hstage <;> simp at hstage
  | _ => simp at hstage

theorem Acts.of_flushing (h : Acts s client stage action s' .flushing) :
    action = .flush ∧ s.store.closed = false ∧ s' = s := by
  generalize hstage : Stage.flushing = stage' at h
  cases h with
  | flushOpen hopen => exact ⟨rfl, hopen, rfl⟩
  | submitNothing => split at hstage <;> cases hstage
  | _ => cases hstage

theorem Acts.of_submitting {change : Change} (h : Acts s client stage action s' (.submitting change)) :
    s.store.closed = false := by
  generalize hstage : Stage.submitting change = stage' at h
  cases h with
  | checkOpen _ hopen => exact hopen
  | submitNothing => split at hstage <;> cases hstage
  | _ => cases hstage

end Shared

namespace Access

variable {a a' : Access} {step : Step} {steps between : List Step} {client other : Nat} {stage stage' : Stage}
  {action : Action} {job : Job}

/-! ## Steps -/

theorem run?_append (a : Access) (steps later : List Step) :
    a.run? (steps ++ later) = (a.run? steps).bind fun a' => a'.run? later := by
  simp [run?, List.foldlM_append]

theorem run?_cons (a : Access) (step : Step) (later : List Step) :
    a.run? (step :: later) = (a.step? step).bind fun a' => a'.run? later := rfl

theorem run?_single (h : a.step? step = some a') : a.run? [step] = some a' := by
  rw [run?_cons, h]
  rfl

/-- What every step keeps is kept by a run. -/
theorem of_run? {P : Access → Prop} (hstep : ∀ step ∈ steps, ∀ a a', a.step? step = some a' → P a → P a')
    (h : a.run? steps = some a') (ha : P a) : P a' := by
  induction steps generalizing a with
  | nil =>
    obtain rfl := Option.some.inj h
    exact ha
  | cons step steps ih =>
    rw [run?_cons] at h
    obtain ⟨a₁, hfirst, hrest⟩ := Option.bind_eq_some_iff.1 h
    exact ih (fun later hlater => hstep later (List.mem_cons_of_mem step hlater)) hrest
      (hstep step List.mem_cons_self a a₁ hfirst ha)

/-- What a step leaves alone that is no action of a client. -/
structure Idles (a a' : Access) : Prop where
  store_eq : a'.shared.store = a.shared.store
  shut_eq : a'.shared.shut = a.shared.shut
  refused_eq : a'.shared.refused = a.shared.refused
  reachable : a.shared.lock.Reachable → a'.shared.lock.Reachable
  writing : ∀ client, a.shared.Writing client → a'.shared.Writing client
  stays : ∀ (client : Nat) (stage : Stage), a.stages[client]? = some stage → a'.stages[client]? = some stage
  of_stage : ∀ (client : Nat) (stage : Stage), a'.stages[client]? = some stage →
    a.stages[client]? = some stage ∨ stage = .idle

theorem idles_arrive (a : Access) :
    Idles a ⟨{ a.shared with lock := a.shared.lock.arrive }, a.stages ++ [.idle]⟩ where
  store_eq := rfl
  shut_eq := rfl
  refused_eq := rfl
  reachable := .arrive
  writing _ h := (List.getElem?_append_left (List.getElem?_eq_some_iff.1 h).1).trans h
  stays _ _ h := (List.getElem?_append_left (List.getElem?_eq_some_iff.1 h).1).trans h
  of_stage client stage h := by
    rw [List.getElem?_append] at h
    split at h
    · exact .inl h
    · exact .inr (List.mem_singleton.1 (List.mem_of_getElem? h))

theorem idles_retry {s : Shared} (h : a.shared.move? (.retry client) = some s) : Idles a ⟨s, a.stages⟩ := by
  obtain ⟨lock, hstep, rfl⟩ := Shared.move?_eq_some h
  exact {
    store_eq := rfl
    shut_eq := rfl
    refused_eq := rfl
    reachable := fun hreach => hreach.step hstep
    writing := fun _ hwriting => System.inside_of_step? hstep hwriting nofun
    stays := fun _ _ => id
    of_stage := fun _ _ => .inl }

theorem idles_work (a : Access) (later : List Job) : Idles a ⟨{ a.shared with queue := later }, a.stages⟩ :=
  ⟨rfl, rfl, rfl, id, fun _ => id, fun _ _ => id, fun _ _ => .inl⟩

theorem acts_of_step? (h : a.step? (.act client action) = some a') : ∃ stage s' stage',
    a.stages[client]? = some stage ∧ a.shared.Acts client stage action s' stage' ∧
      a' = ⟨s', a.stages.set client stage'⟩ := by
  obtain ⟨stage, hstage, h⟩ := Option.bind_eq_some_iff.1 h
  obtain ⟨⟨s', stage'⟩, hact, rfl⟩ := Option.map_eq_some_iff.1 h
  exact ⟨stage, s', stage', hstage, Shared.acts_of_act? hact, rfl⟩

theorem step?_of_act? {s' : Shared} (hstage : a.stages[client]? = some stage)
    (h : a.shared.act? client stage action = some (s', stage')) :
    a.step? (.act client action) = some ⟨s', a.stages.set client stage'⟩ := by
  rw [step?, hstage, Option.bind_some, h, Option.map_some]

/-- A step is an action of a client, or leaves alone what clients do. -/
theorem step?_cases (h : a.step? step = some a') :
    (∃ client action stage s' stage', step = .act client action ∧ a.stages[client]? = some stage ∧
      a.shared.Acts client stage action s' stage' ∧ a' = ⟨s', a.stages.set client stage'⟩) ∨
    (∀ client action, step ≠ .act client action) ∧ Idles a a' := by
  cases step with
  | arrive =>
    obtain ⟨⟩ := h
    exact .inr ⟨nofun, idles_arrive a⟩
  | act client action =>
    obtain ⟨stage, s', stage', hacts⟩ := acts_of_step? h
    exact .inl ⟨client, action, stage, s', stage', rfl, hacts⟩
  | retry client =>
    obtain ⟨s, hmove, rfl⟩ := Option.map_eq_some_iff.1 h
    exact .inr ⟨nofun, idles_retry hmove⟩
  | work =>
    rw [step?] at h
    split at h
    · cases h
    · next later hqueue =>
      obtain ⟨⟩ := h
      exact .inr ⟨nofun, idles_work a later⟩

/-- After an action, another client is at the stage at which it was. -/
theorem stage_of_set {s' : Shared} (h : (Access.mk s' (a.stages.set client stage')).stages[other]? = some stage) :
    other = client ∧ stage = stage' ∨ other ≠ client ∧ a.stages[other]? = some stage := by
  rw [List.getElem?_set] at h
  split at h
  · next heq =>
    split at h
    · exact .inl ⟨heq.symm, (Option.some.inj h).symm⟩
    · cases h
  · next hne => exact .inr ⟨fun heq => hne heq.symm, h⟩

/-! ## A set without interruption -/

/-- To check the store and to submit the change, if so, is what a store does with a change, but for the queue. -/
theorem exists_run?_notify {change : Change} (hstage : a.stages[client]? = some (.notifying change))
    (hclosed : a.shared.shut = true → a.shared.store.closed = true) :
    ∃ (actions : List Action) (changes : List Change),
      (a.shared.store.notify change).1 = { a.shared.store with pending := a.shared.store.pending ++ changes } ∧
      a.run? (actions.map (.act client)) = some
        ⟨{ a.shared with
            queue := a.shared.queue ++ changes.map .post
            log := a.shared.log ++ (a.shared.store.notify change).2 }, a.stages.set client .leaving⟩ := by
  by_cases hmute : a.shared.store.eventKey.isEmpty
  · have hnotify : a.shared.store.notify change = (a.shared.store, []) := if_pos hmute
    have hcheck := step?_of_act? hstage (show a.shared.act? client _ .check = _ from if_pos hmute)
    refine ⟨[.check], [], by rw [hnotify, List.append_nil], ?_⟩
    rw [hnotify, List.map_nil, List.append_nil, List.append_nil]
    exact run?_single hcheck
  by_cases hmarked : a.shared.store.closed
  · have hnotify : a.shared.store.notify change = (a.shared.store, [.notPosted change.key]) :=
      (if_neg hmute).trans (if_pos hmarked)
    have hcheck := step?_of_act? hstage
      (show a.shared.act? client _ .check = _ from (if_neg hmute).trans (if_pos hmarked))
    refine ⟨[.check], [], by rw [hnotify, List.append_nil], ?_⟩
    rw [hnotify, List.map_nil, List.append_nil]
    exact run?_single hcheck
  · have hnotify : a.shared.store.notify change =
        ({ a.shared.store with pending := a.shared.store.pending ++ [change] }, []) :=
      (if_neg hmute).trans (if_neg hmarked)
    have hcheck := step?_of_act? hstage
      (show a.shared.act? client _ .check = _ from (if_neg hmute).trans (if_neg hmarked))
    have hsubmit := step?_of_act? (a := ⟨a.shared, a.stages.set client (.submitting change)⟩)
      (List.getElem?_set_self (List.getElem?_eq_some_iff.1 hstage).1)
      (show a.shared.act? client _ .submit = _ from rfl)
    refine ⟨[.check, .submit], [change], by rw [hnotify], ?_⟩
    rw [hnotify, List.append_nil, List.map_cons, run?_cons, hcheck, Option.bind_some]
    refine (run?_single hsubmit).trans ?_
    rw [List.set_set, Shared.submit, if_neg fun hshut => hmarked (hclosed hshut)]
    rfl

/-- A client that is inside to set a variable does with its actions what a set does: the store is the one after the
set, and the change that would wait in it waits in the queue. -/
theorem exists_run?_set {r : Reading} {key : Text} {value : Option Text}
    (hstage : a.stages[client]? = some (.setting r key value)) (hwriting : a.shared.Writing client)
    (hclosed : a.shared.shut = true → a.shared.store.closed = true) :
    ∃ (actions : List Action) (changes : List Change),
      (a.shared.store.set r key value).1.pending = a.shared.store.pending ++ changes ∧
      a.run? (actions.map (.act client)) = some
        ⟨{ a.shared with
            store := { (a.shared.store.set r key value).1 with pending := a.shared.store.pending }
            queue := a.shared.queue ++ changes.map .post
            log := a.shared.log ++ (a.shared.store.set r key value).2 }, a.stages.set client .leaving⟩ := by
  rw [Store.set_eq_assign?]
  match hassign : a.shared.store.assign? r key value with
  | none =>
    have hbind := step?_of_act? hstage (show a.shared.act? client _ .bind = some (a.shared, .leaving) by
      rw [Shared.act?, if_pos hwriting, hassign])
    refine ⟨[.bind], [], (List.append_nil _).symm, ?_⟩
    rw [List.map_nil, List.append_nil, List.append_nil]
    exact run?_single hbind
  | some (store, change) =>
    obtain ⟨bindings, rfl⟩ := Shared.exists_of_assign? hassign
    have hbind : a.step? (.act client .bind) = some ⟨{ a.shared with
        store := { a.shared.store with bindings := bindings } }, a.stages.set client (.notifying change)⟩ :=
      step?_of_act? hstage (by rw [Shared.act?, if_pos hwriting, hassign])
    have hbound : (a.stages.set client (.notifying change))[client]? = some (.notifying change) :=
      List.getElem?_set_self (List.getElem?_eq_some_iff.1 hstage).1
    obtain ⟨actions, changes, hnotify, hrun⟩ := exists_run?_notify
      (a := ⟨{ a.shared with store := { a.shared.store with bindings := bindings } }, _⟩) hbound hclosed
    refine ⟨.bind :: actions, changes, congrArg Store.pending hnotify, ?_⟩
    rw [List.map_cons, run?_cons, hbind, Option.bind_some, hrun, List.set_set]
    simp only [hnotify]

/-! ## In every state -/

/-- The lock is one that can be reached, every client's stage fits the shared state, and the queue of an open
store has not been shut. -/
structure Sound (a : Access) : Prop where
  reachable : a.shared.lock.Reachable
  fits : ∀ (client : Nat) (stage : Stage), a.stages[client]? = some stage → a.shared.Fits client stage
  closed_of_shut : a.shared.shut = true → a.shared.store.closed = true

theorem sound_start (store : Store) : Sound (start store) :=
  ⟨.empty, nofun, nofun⟩

theorem sound_step (h : a.step? step = some a') (hsound : Sound a) : Sound a' := by
  rcases step?_cases h with ⟨client, action, stage, s', stage', -, hstage, hacts, rfl⟩ | ⟨-, hidles⟩
  · have heffect := hacts.effect
    refine ⟨heffect.reachable hsound.reachable, fun other stage₁ h₁ => ?_, fun hshut => heffect.stays_closed ?_⟩
    · rcases stage_of_set h₁ with ⟨rfl, rfl⟩ | ⟨hne, hother⟩
      · exact hacts.fits (hsound.fits other stage hstage)
      · exact heffect.fits hsound.reachable hne (hsound.fits other stage₁ hother)
    · rcases heffect.shut with heq | ⟨rfl, -, -⟩
      · exact hsound.closed_of_shut (heq ▸ hshut)
      · exact hsound.fits client _ hstage
  · refine ⟨hidles.reachable hsound.reachable, fun client stage hstage => ?_, fun hshut => ?_⟩
    · rcases hidles.of_stage client stage hstage with hstage | rfl
      · have hclosed : a'.shared.store.closed = a.shared.store.closed := congrArg Store.closed hidles.store_eq
        exact (hsound.fits client stage hstage).mono (hidles.writing client) hclosed.trans fun _ => hclosed.trans
      · exact trivial
    · rw [hidles.store_eq]
      exact hsound.closed_of_shut (hidles.shut_eq ▸ hshut)

end Access

end MudClient.Variables
