import MudClient.Proofs.Session.Delivery
import MudClient.Session.Run

/-!
# Sessions as runs

* `Tracks`: a dispatch and a session with the same store
* `Leads`: what a session does to its store, a dispatch does in some run
* `Stays`: the same, and a post that goes on goes on still
* `stays_perform`, `steady_run`: actions of clients and handlers, and all that follows from a step
* `leads_step`: a step of a session is a run of a dispatch, after which nothing waits
* `exists_run?_of_course`: a whole session is a run of a dispatch that has posted all changes
-/

set_option autoImplicit false

namespace MudClient.Session

open Events (Board Conduct Entry Handler Step)
open MudClient.Stream (GameEvent Receiver)
open Variables (Change Store StoreCall StoreNotice)

/-! ## Sessions and dispatches -/

/-- What is noted of changes that are not posted, or not delivered. -/
def reports (log : List (Entry Failure Notice)) : List (Entry Failure Notice) :=
  log.filter fun
    | .noted (.store _) => true
    | .noted (.notDelivered _ _) => true
    | _ => false

theorem reports_append (log later : List (Entry Failure Notice)) :
    reports (log ++ later) = reports log ++ reports later :=
  List.filter_append log later

/-- A dispatch has the store of a session, posts while the session does, and has the same reports. -/
structure Tracks (d : Dispatch) (b : Desk) : Prop where
  store_eq : d.store = b.state.store
  current_eq : d.current.isSome = b.state.delivering
  reports_eq : reports d.log = reports b.log.reverse
  shut_eq : d.shut = false

/-- From a dispatch that tracks the one session a run leads to one that tracks the other. -/
def Leads (b b' : Desk) : Prop :=
  ∀ d, Tracks d b → ∃ steps d', d.run? steps = some d' ∧ Tracks d' b'

/-- The one session leads to the other, and is posting if the other is. -/
structure Stays (b b' : Desk) : Prop where
  leads : Leads b b'
  delivering_eq : b'.state.delivering = b.state.delivering

variable {b b' b'' : Desk}

theorem Leads.trans (h : Leads b b') (h' : Leads b' b'') : Leads b b'' := by
  intro d hd
  obtain ⟨steps, d', hrun, hd'⟩ := h d hd
  obtain ⟨later, d'', hrun', hd''⟩ := h' d' hd'
  refine ⟨steps ++ later, d'', ?_, hd''⟩
  rw [Dispatch.run?_append, hrun, Option.bind_some, hrun']

theorem leads_of_step (h : ∀ d, Tracks d b → ∃ step d', d.step? step = some d' ∧ Tracks d' b') : Leads b b' := by
  intro d hd
  obtain ⟨step, d', hstep, hd'⟩ := h d hd
  refine ⟨[step], d', ?_, hd'⟩
  simp [Dispatch.run?, hstep]

theorem Stays.trans (h : Stays b b') (h' : Stays b' b'') : Stays b b'' :=
  ⟨h.leads.trans h'.leads, h'.delivering_eq.trans h.delivering_eq⟩

theorem stays_of_eq (hstore : b'.state.store = b.state.store)
    (hdelivering : b'.state.delivering = b.state.delivering)
    (hlog : reports b'.log.reverse = reports b.log.reverse) : Stays b b' := by
  refine ⟨fun d hd => ⟨[], d, rfl, ?_⟩, hdelivering⟩
  exact ⟨hd.store_eq.trans hstore.symm, hd.current_eq.trans hdelivering.symm,
    hd.reports_eq.trans hlog.symm, hd.shut_eq⟩

theorem Stays.refl (b : Desk) : Stays b b := stays_of_eq rfl rfl rfl

theorem stays_log (b : Desk) {entries : List (Entry Failure Notice)} (h : reports entries = []) :
    Stays b { b with log := entries ++ b.log } := by
  refine stays_of_eq rfl rfl ?_
  rw [List.reverse_append, reports_append, reports, reports, List.filter_reverse, List.filter_reverse]
  rw [reports] at h
  rw [h, List.reverse_nil, List.append_nil]

/-! ## Calls -/

theorem stays_call (b : Desk) (call : StoreCall) : Stays b (b.call call) := by
  refine ⟨leads_of_step fun d hd => ⟨.call .client call, d.perform call, rfl, ?_⟩, rfl⟩
  rw [Dispatch.perform, if_neg (by simp [hd.shut_eq]), hd.store_eq]
  refine ⟨rfl, hd.current_eq, ?_, hd.shut_eq⟩
  simp only [Desk.call, Desk.putStore, List.reverse_append, List.reverse_reverse]
  rw [reports_append, reports_append, hd.reports_eq]

theorem stays_writeAll (w : Watch) (event : GameEvent) (b : Desk) (seen : List Sight) :
    Stays b ((watcher w).writeAll event (b, seen)).1 := by
  rw [Receiver.writeAll]
  induction event.variables generalizing b seen with
  | nil => exact .refl b
  | cons p rest ih =>
    rw [List.foldl_cons]
    have hwrite : Stays b ((watcher w).write p.1 p.2 (b, seen)).1 := by
      simp only [watcher]
      split
      · exact stays_call b _
      · exact .refl b
    exact hwrite.trans (ih _ _)

theorem stays_accept (w : Watch) (events : List GameEvent) (b : Desk) (seen : List Sight) :
    Stays b ((watcher w).accept events (b, seen)).2.1 := by
  induction events generalizing b seen with
  | nil => exact .refl b
  | cons event events ih =>
    have hwritten := stays_writeAll w event b seen
    have hhandled : Stays b ((watcher w).handle event ((watcher w).writeAll event (b, seen))).2.1 := by
      simp only [watcher] at hwritten ⊢
      split <;> exact hwritten
    rw [Receiver.accept]
    split
    · next h => exact h ▸ hhandled
    · next h => exact (h ▸ hhandled).trans (ih _ _)

/-- An action without anything that follows from it. -/
structure Quiet (b : Desk) (outcome : Outcome) : Prop where
  stays : Stays b outcome.board
  next_eq : outcome.next = []

theorem quiet_settled {ε : Type} (b : Desk) (wrap : ε → Failure) (result : Except ε Answer) :
    Quiet b (settled b wrap result) := by
  cases result <;> exact ⟨.refl b, rfl⟩

theorem quiet_classify (b : Desk) (tags : List Markup.Tag) (w : Watch) : Quiet b (classify b tags w) := by
  rw [classify]
  split
  · exact ⟨.refl b, rfl⟩
  · next events _ =>
    have haccept := stays_accept w events b []
    split
    · next h =>
      rw [h] at haccept
      exact ⟨haccept, rfl⟩
    · next h =>
      rw [h] at haccept
      exact ⟨haccept, rfl⟩

theorem quiet_classifyLine (b : Desk) (line : Text) (w : Watch) : Quiet b (classifyLine b line w) := by
  rw [classifyLine]
  obtain ⟨hstays, hnext⟩ := quiet_classify
    { b with log := ((Markup.readLine line).2.map fun n => Entry.noted (.markup n)).reverse ++ b.log }
    (Markup.readLine line).1 w
  have hread : Stays b
      { b with log := ((Markup.readLine line).2.map fun n => Entry.noted (.markup n)).reverse ++ b.log } := by
    refine stays_log b ?_
    simp [reports]
  exact ⟨hread.trans hstays, hnext⟩

/-! ## Posts -/

/-- The session while a change that it has taken from the queue is posted. -/
def posting (b : Desk) (store : Store) : Desk :=
  { b with state := { b.state with store := store, delivering := true } }

/-- The session when the post of a change has come to its end. -/
def posted (b : Desk) (change : Change) (failure : Option Text) : Desk :=
  { b with
    log := (failure.map fun reason => Entry.noted (.notDelivered change.key reason)).toList ++ b.log
    state := { b.state with delivering := false } }

theorem exists_take {change : Change} {store : Store} {d : Dispatch} (hd : Tracks d b)
    (hb : b.state.delivering = false) (hnext : b.state.store.nextPending? = some (change, store)) :
    ∃ d', d.step? .take = some d' ∧ d'.current = some change ∧
      d'.posted = d.posted ++ [.ofChange store.eventKey change] ∧ Tracks d' (posting b store) := by
  have hcurrent : d.current = none := by simpa [hb] using hd.current_eq
  refine ⟨{ d with
    store := store
    current := some change
    posted := d.posted ++ [.ofChange store.eventKey change] }, ?_, rfl, rfl, rfl, rfl, hd.reports_eq, hd.shut_eq⟩
  simp only [Dispatch.step?, hcurrent, hd.store_eq, hnext]

theorem exists_finish {change : Change} {d : Dispatch} (hd : Tracks d b) (hcurrent : d.current = some change)
    (failure : Option Text) :
    ∃ d', d.step? (.finish failure) = some d' ∧ Tracks d' (posted b change failure) := by
  refine ⟨{ d with
    current := none
    finished := d.finished ++ [(change, failure)]
    log := d.log ++ failure.toList.map fun reason => Entry.noted (.notDelivered change.key reason) }, ?_,
    hd.store_eq, rfl, ?_, hd.shut_eq⟩
  · rw [Dispatch.step?, hcurrent, Option.map_some]
  simp only [posted, List.reverse_append]
  rw [reports_append, reports_append, hd.reports_eq]
  cases failure <;> rfl

theorem leads_posting {change : Change} {store : Store} (hb : b.state.delivering = false)
    (hnext : b.state.store.nextPending? = some (change, store)) : Leads b (posting b store) :=
  leads_of_step fun _ hd =>
    let ⟨d', hstep, _, _, hd'⟩ := exists_take hd hb hnext
    ⟨.take, d', hstep, hd'⟩

theorem leads_posted {change : Change} (hb : b.state.delivering) : Leads b (posted b change none) := by
  refine leads_of_step fun d hd => ?_
  obtain ⟨current, hcurrent⟩ := Option.isSome_iff_exists.1 (hd.current_eq.trans hb)
  obtain ⟨d', hstep, hd'⟩ := exists_finish hd hcurrent none
  exact ⟨.finish none, d', hstep, hd'⟩

theorem leads_posted_posting {change : Change} {store : Store} (hb : b.state.delivering = false)
    (hnext : b.state.store.nextPending? = some (change, store)) (failure : Option Text) :
    Leads b (posted (posting b store) change failure) := by
  intro d hd
  obtain ⟨d', htake, hcurrent, -, hd'⟩ := exists_take hd hb hnext
  obtain ⟨d'', hfinish, hd''⟩ := exists_finish hd' hcurrent failure
  refine ⟨[.take, .finish failure], d'', ?_, hd''⟩
  simp [Dispatch.run?, htake, hfinish]

theorem posted_posting (hb : b.state.delivering = false) (store : Store) (change : Change)
    (failure : Option Text) :
    posted (posting b store) change failure = { b with
      log := (failure.map fun reason => Entry.noted (.notDelivered change.key reason)).toList ++ b.log
      state := { b.state with store := store } } := by
  simp only [posted, posting]
  rw [← hb]

theorem deliver_cases (hb : b.state.delivering = false) :
    (b.state.store.pending = [] ∧ deliver b = answered b .done) ∨
      ∃ change store, b.state.store.nextPending? = some (change, store) ∧
        ((∃ failure, deliver b = ⟨.ok .done, posted (posting b store) change failure, [.act .deliver]⟩) ∨
          deliver b = ⟨.ok .done, posting b store,
            [.post (Posting.ofChange store.eventKey change).key (Posting.ofChange store.eventKey change).data,
              .act .delivered, .act .deliver]⟩) := by
  rw [deliver]
  split
  · next hnext =>
    refine .inl ⟨?_, rfl⟩
    rw [Store.nextPending?] at hnext
    split at hnext
    · next hpending => exact hpending
    · cases hnext
  · next change store hnext =>
    refine .inr ⟨change, store, hnext, ?_⟩
    simp only [posted_posting hb]
    split
    · exact .inr rfl
    · exact .inl ⟨none, rfl⟩
    · next reason _ => exact .inl ⟨some reason, rfl⟩

/-! ## Actions -/

/-- Actions of clients and handlers. The others are a session's own, and making a variable computed. -/
def Action.isPublic : Action → Bool
  | .deliver | .delivered | .addDynamic _ _ => false
  | _ => true

def isPublic : Step Action → Bool
  | .act action => action.isPublic
  | _ => true

/-- What an action of a client or a handler does to the store. Where something follows from it, the changes that
wait are posted, and nothing is posted yet. -/
theorem stays_perform {action : Action} (h : action.isPublic) (b : Desk) :
    Stays b (perform action b).board ∧
      ((perform action b).next = [] ∨
        (perform action b).next = [.act .deliver] ∧ b.state.delivering = false) := by
  have hquiet (hq : Quiet b (perform action b)) :
      Stays b (perform action b).board ∧
        ((perform action b).next = [] ∨
          (perform action b).next = [.act .deliver] ∧ b.state.delivering = false) :=
    ⟨hq.stays, .inl hq.next_eq⟩
  cases action with
  | remove key => exact hquiet ⟨stays_call b _, rfl⟩
  | set key value => exact hquiet ⟨stays_call b _, rfl⟩
  | clear => exact hquiet ⟨stays_call b _, rfl⟩
  | tick seconds => exact hquiet ⟨stays_of_eq rfl rfl rfl, rfl⟩
  | evaluateComputed kind => exact hquiet (quiet_settled b _ _)
  | expand text => exact hquiet (quiet_settled b _ _)
  | script line =>
    refine hquiet ?_
    rw [perform]
    split
    · exact ⟨.refl b, rfl⟩
    · exact quiet_settled b _ _
  | stream line w => exact hquiet (quiet_classifyLine b line w)
  | classify tags w => exact hquiet (quiet_classify b tags w)
  | flush =>
    simp only [perform, settle]
    split
    · exact ⟨.refl b, .inl rfl⟩
    · next hb => exact ⟨.refl b, .inr ⟨rfl, Bool.eq_false_iff.2 hb⟩⟩
  | close =>
    have hcall := stays_call b .close
    have hdelivering : (b.call .close).state.delivering = b.state.delivering := rfl
    simp only [perform, settle, hdelivering]
    split
    · exact ⟨hcall, .inl rfl⟩
    · next hb => exact ⟨hcall, .inr ⟨rfl, Bool.eq_false_iff.2 hb⟩⟩
  | deliver => cases h
  | delivered => cases h
  | addDynamic key kind => cases h
  | _ => exact hquiet ⟨.refl b, rfl⟩

/-! ## Runs -/

section

variable {handler : Text → Handler Action Failure} {n : Nat} {s : Step Action} {steps rest : List (Step Action)}
  {run : Step Action → Desk → Option (Except Failure Answer × Desk)} {failure : Option Failure}
  {r : Except Failure Answer} {key : Text} {data : Events.Payload}

/-- Steps of clients and handlers stay, with all that follows from them. -/
def Steady (run : Step Action → Desk → Option (Except Failure Answer × Desk)) : Prop :=
  ∀ s b r b', isPublic s → run s b = some (r, b') → Stays b b'

/-- Posting all that waits stays, and nothing waits any more. -/
def Drains (run : Step Action → Desk → Option (Except Failure Answer × Desk)) : Prop :=
  ∀ b r b', b.state.delivering = false → run (.act .deliver) b = some (r, b') →
    Stays b b' ∧ b'.state.store.pending = []

theorem runAll_nil (h : Conduct.runAll run [] b = some (failure, b')) : b' = b :=
  (Prod.mk.inj (Option.some.inj h)).2.symm

theorem runAll_cons (h : Conduct.runAll run (s :: rest) b = some (failure, b')) :
    ∃ r b'', run s b = some (r, b'') ∧
      match r with
      | .error _ => b' = b''
      | .ok _ => Conduct.runAll run rest b'' = some (failure, b') := by
  rw [Conduct.runAll] at h
  split at h
  · cases h
  · next reason b'' hr => exact ⟨.error reason, b'', hr, (Prod.mk.inj (Option.some.inj h)).2.symm⟩
  · next answer b'' hr => exact ⟨.ok answer, b'', hr, h⟩

theorem stays_runAll (hrun : Steady run) (hsteps : ∀ s ∈ steps, isPublic s)
    (h : Conduct.runAll run steps b = some (failure, b')) : Stays b b' := by
  induction steps generalizing b with
  | nil => exact runAll_nil h ▸ .refl b
  | cons s rest ih =>
    obtain ⟨r, b'', hr, hrest⟩ := runAll_cons h
    have hfirst : Stays b b'' := hrun s b r b'' (hsteps s (by simp)) hr
    cases r with
    | error reason => exact hrest ▸ hfirst
    | ok answer => exact hfirst.trans (ih (fun s hs => hsteps s (by simp [hs])) hrest)

theorem drains_runAll (hdrains : Drains run) (hb : b.state.delivering = false)
    (h : Conduct.runAll run [.act .deliver] b = some (failure, b')) :
    Stays b b' ∧ b'.state.store.pending = [] := by
  obtain ⟨r, b'', hr, hrest⟩ := runAll_cons h
  have heq : b' = b'' := by
    cases r with
    | error reason => exact hrest
    | ok answer => exact runAll_nil hrest
  exact heq ▸ hdrains b r b'' hb hr

theorem run_post (h : (conduct handler).run n (.post key data) b = some (r, b')) : r = .ok .done := by
  cases n with
  | zero => cases h
  | succ n =>
    obtain ⟨b'', -, heq⟩ := Option.map_eq_some_iff.1 h
    exact (Prod.mk.inj heq).1.symm

theorem run_delivered (change : Change) (h : (conduct handler).run n (.act .delivered) b = some (r, b')) :
    r = .ok .done ∧ b' = posted b change none := by
  cases n with
  | zero => cases h
  | succ n =>
    obtain ⟨rfl, rfl⟩ := Prod.mk.inj (Option.some.inj h)
    exact ⟨rfl, rfl⟩

theorem board_of_error {action : Action} {reason : Failure}
    (hresult : (perform action b).result = .error reason)
    (h : (conduct handler).run (n + 1) (.act action) b = some (r, b')) : b' = (perform action b).board := by
  have hact : (conduct handler).act action b = perform action b := rfl
  simp only [Conduct.run, hact, hresult] at h
  exact (Prod.mk.inj (Option.some.inj h)).2.symm

theorem exists_runAll {action : Action} {answer : Answer}
    (hresult : (perform action b).result = .ok answer)
    (h : (conduct handler).run (n + 1) (.act action) b = some (r, b')) :
    ∃ failure, Conduct.runAll ((conduct handler).run n) (perform action b).next (perform action b).board =
      some (failure, b') := by
  have hact : (conduct handler).act action b = perform action b := rfl
  simp only [Conduct.run, hact, hresult] at h
  obtain ⟨⟨failure, b''⟩, hrun, heq⟩ := Option.map_eq_some_iff.1 h
  obtain ⟨-, rfl⟩ := Prod.mk.inj heq
  exact ⟨failure, hrun⟩

theorem exists_runAll_deliver (hdeliver : deliver b = ⟨.ok .done, b'', steps⟩)
    (h : (conduct handler).run (n + 1) (.act .deliver) b = some (r, b')) :
    ∃ failure, Conduct.runAll ((conduct handler).run n) steps b'' = some (failure, b') := by
  have hperform : perform .deliver b = ⟨.ok .done, b'', steps⟩ := by rw [perform, hdeliver]
  have hresult : (perform .deliver b).result = .ok .done := by rw [hperform]
  have hall := exists_runAll hresult h
  rwa [hperform] at hall

theorem drains_succ (hrun : Steady ((conduct handler).run n)) (hdrains : Drains ((conduct handler).run n)) :
    Drains ((conduct handler).run (n + 1)) := by
  intro b r b' hb h
  obtain ⟨hpending, hdeliver⟩ | ⟨change, store, hnext, ⟨failure, hdeliver⟩ | hdeliver⟩ := deliver_cases hb
  · obtain ⟨_, hall⟩ := exists_runAll_deliver hdeliver h
    obtain rfl := runAll_nil hall
    exact ⟨.refl _, hpending⟩
  · obtain ⟨_, hall⟩ := exists_runAll_deliver hdeliver h
    obtain ⟨hstays, hpending⟩ := drains_runAll hdrains rfl hall
    exact ⟨⟨(leads_posted_posting hb hnext failure).trans hstays.leads, hstays.delivering_eq.trans hb.symm⟩,
      hpending⟩
  · -- the handlers act between the two steps of the worker, and leave it posting
    obtain ⟨_, hall⟩ := exists_runAll_deliver hdeliver h
    obtain ⟨r₁, b₁, hpost, hlater⟩ := runAll_cons hall
    have hposting : Stays (posting b store) b₁ := hrun _ _ _ _ rfl hpost
    obtain rfl := run_post hpost
    obtain ⟨r₂, b₂, hdelivered, hlast⟩ := runAll_cons hlater
    obtain ⟨rfl, rfl⟩ := run_delivered change hdelivered
    obtain ⟨hstays, hpending⟩ := drains_runAll hdrains rfl hlast
    have hposted : Leads b (posted b₁ change none) :=
      ((leads_posting hb hnext).trans hposting.leads).trans (leads_posted hposting.delivering_eq)
    exact ⟨⟨hposted.trans hstays.leads, hstays.delivering_eq.trans hb.symm⟩, hpending⟩

section

variable (hhandler : ∀ name, ∀ s ∈ (handler name).steps, isPublic s)
include hhandler

theorem stays_handler (hrun : Steady run) {name : Text}
    (h : (conduct handler).call run key data name b = some (failure, b')) : Stays b b' := by
  have hrecorded : Stays b { b with calls := ⟨name, key, data⟩ :: b.calls } := stays_of_eq rfl rfl rfl
  rw [Conduct.call] at h
  split at h
  · cases h
  · next hr =>
    obtain ⟨rfl, rfl⟩ := Prod.mk.inj (Option.some.inj h)
    exact hrecorded.trans (stays_runAll hrun (hhandler name) hr)
  · next hr =>
    obtain ⟨rfl, rfl⟩ := Prod.mk.inj (Option.some.inj h)
    exact hrecorded.trans (stays_runAll hrun (hhandler name) hr)

theorem stays_callAll (hrun : Steady run) {names : List Text}
    (h : (conduct handler).callAll run key data names b = some b') : Stays b b' := by
  induction names generalizing b with
  | nil =>
    obtain rfl := Option.some.inj h
    exact .refl b
  | cons name names ih =>
    rw [Conduct.callAll] at h
    split at h
    · cases h
    · next hr => exact (stays_handler hhandler hrun hr).trans (ih h)
    · next reason b'' hr =>
      have hfailed : Stays b'' { b'' with log := [Entry.handlerFailed key reason] ++ b''.log } :=
        stays_log b'' rfl
      exact (stays_handler hhandler hrun hr).trans (hfailed.trans (ih h))

theorem steady_succ (hrun : Steady ((conduct handler).run n)) (hdrains : Drains ((conduct handler).run n)) :
    Steady ((conduct handler).run (n + 1)) := by
  intro s b r b' hs h
  cases s with
  | subscribe key name =>
    obtain ⟨-, rfl⟩ := Prod.mk.inj (Option.some.inj h)
    exact stays_of_eq rfl rfl rfl
  | unsubscribe key name =>
    obtain ⟨-, rfl⟩ := Prod.mk.inj (Option.some.inj h)
    exact stays_of_eq rfl rfl rfl
  | post key data =>
    obtain ⟨b'', hcalls, heq⟩ := Option.map_eq_some_iff.1 h
    obtain ⟨-, rfl⟩ := Prod.mk.inj heq
    exact stays_callAll hhandler hrun hcalls
  | act action =>
    obtain ⟨hstays, hnext⟩ := stays_perform hs b
    cases hresult : (perform action b).result with
    | error reason => exact board_of_error hresult h ▸ hstays
    | ok answer =>
      obtain ⟨failure, hall⟩ := exists_runAll hresult h
      obtain hnext | ⟨hnext, hb⟩ := hnext
      · rw [hnext] at hall
        exact runAll_nil hall ▸ hstays
      · rw [hnext] at hall
        exact hstays.trans (drains_runAll hdrains (hstays.delivering_eq.trans hb) hall).1

theorem steady_run (n : Nat) : Steady ((conduct handler).run n) ∧ Drains ((conduct handler).run n) := by
  induction n with
  | zero =>
    constructor
    · intro s b r b' hs h
      cases h
    · intro b r b' hb h
      cases h
  | succ n ih => exact ⟨steady_succ hhandler ih.1 ih.2, drains_succ ih.1 ih.2⟩

/-- Whatever clients and handlers do in a step of a session, and the posts that follow, is a run of a dispatch that
tracks it, and no change waits any more at its end. -/
theorem leads_step (hs : isPublic s) (hb : b.state.delivering = false) (h : step handler n s b = some (r, b')) :
    Leads b b' ∧ b'.state.delivering = false ∧ b'.state.store.pending = [] := by
  obtain ⟨hrun, hdrains⟩ := steady_run hhandler n
  rw [step] at h
  split at h
  · cases h
  · next r' b'' hfirst =>
    obtain ⟨⟨r'', b₂⟩, hlast, heq⟩ := Option.map_eq_some_iff.1 h
    obtain ⟨-, rfl⟩ := Prod.mk.inj heq
    have hstays := hrun s b r' b'' hs hfirst
    obtain ⟨hdrained, hpending⟩ := hdrains b'' r'' b₂ (hstays.delivering_eq.trans hb) hlast
    have hall := hstays.trans hdrained
    exact ⟨hall.leads, hall.delivering_eq.trans hb, hpending⟩

omit hhandler

/-- A session after one step after the other, if posts do not nest too deep. -/
def course (handler : Text → Handler Action Failure) (n : Nat) (steps : List (Step Action)) (b : Desk) :
    Option Desk :=
  steps.foldlM (fun b s => (step handler n s b).map Prod.snd) b

include hhandler

theorem leads_course (hsteps : ∀ s ∈ steps, isPublic s) (hb : b.state.delivering = false)
    (hpending : b.state.store.pending = []) (h : course handler n steps b = some b') :
    Leads b b' ∧ b'.state.delivering = false ∧ b'.state.store.pending = [] := by
  induction steps generalizing b with
  | nil =>
    obtain rfl := Option.some.inj h
    exact ⟨(Stays.refl b).leads, hb, hpending⟩
  | cons s steps ih =>
    rw [course, List.foldlM_cons] at h
    obtain ⟨b'', hfirst, hrest⟩ := Option.bind_eq_some_iff.1 h
    obtain ⟨⟨r, b₁⟩, hstep, rfl⟩ := Option.map_eq_some_iff.1 hfirst
    obtain ⟨hleads, hb₁, hpending₁⟩ := leads_step hhandler (hsteps s (by simp)) hb hstep
    obtain ⟨hleads', hb', hpending'⟩ := ih (fun s hs => hsteps s (by simp [hs])) hb₁ hpending₁ hrest
    exact ⟨hleads.trans hleads', hb', hpending'⟩

/-- A session that starts with a fresh store is a run of a dispatch, which has posted all changes that the calls on
the store made before the close. -/
theorem exists_run?_of_course {eventKey : Text} (hk : eventKey ≠ [])
    (fixed : List (Text × Variables.DynamicKind)) (hub : Events.Hub) (reading : Variables.Reading) (sink : Sink)
    (hsteps : ∀ s ∈ steps, isPublic s)
    (h : course handler n steps ⟨hub, [], [], ⟨Store.new eventKey fixed, reading, sink, false⟩⟩ = some b) :
    ∃ taken d, (Dispatch.start (Store.new eventKey fixed)).run? taken = some d ∧ Tracks d b ∧
      d.posted = (Variables.changesBeforeClose (fixed.map Prod.fst) (Dispatch.callsOf taken)).map
        (.ofChange eventKey) := by
  have hpending : (Store.new eventKey fixed).pending = [] := by
    obtain ⟨bindings, keys, hnew⟩ := Store.exists_new eventKey fixed
    rw [hnew]
  obtain ⟨hleads, -, hdone⟩ := leads_course hhandler hsteps rfl hpending h
  obtain ⟨taken, d, hrun, hd⟩ := hleads (Dispatch.start (Store.new eventKey fixed)) ⟨rfl, rfl, rfl, rfl⟩
  have htraced := Dispatch.traced_run? hk fixed hrun
  refine ⟨taken, d, hrun, hd, ?_⟩
  rw [htraced.posted_eq, ← htraced.changes_eq, hd.store_eq, hdone, List.append_nil]

end

end

end MudClient.Session
