import Mathlib.Data.List.Induction
import MudClient.Proofs.Variables.Contents
import MudClient.Session.Dispatch

/-!
# What becomes of changes

* `Dispatch.callsOf`, `Dispatch.endingsOf`: the calls and the ends of posts among steps
* `Dispatch.Traced`: what has become of the changes that calls made
* `Dispatch.traced_step`, `Dispatch.traced_run?`: one more step, and a whole run
* `Dispatch.exists_drained`: the worker can always post all that waits
* `Dispatch.deliveries_of_run?`: changes are posted one by one, none twice, in the order of the calls
-/

set_option autoImplicit false

namespace MudClient.Session.Dispatch

open Events (Entry)
open Variables

/-! ## Steps -/

def Step.call? : Step → Option StoreCall
  | .call _ c => some c
  | _ => none

def Step.ending? : Step → Option (Option Text)
  | .finish failure => some failure
  | _ => none

def callsOf (steps : List Step) : List StoreCall :=
  steps.filterMap Step.call?

/-- How posts ended: each with a reason if it failed. -/
def endingsOf (steps : List Step) : List (Option Text) :=
  steps.filterMap Step.ending?

/-- The variable of a change that is reported as not posted. -/
def notPosted? : Entry Failure Notice → Option Text
  | .noted (.store (.notPosted key)) => some key
  | _ => none

theorem run?_append (d : Dispatch) (steps later : List Step) :
    d.run? (steps ++ later) = (d.run? steps).bind fun d' => d'.run? later := by
  simp [run?, List.foldlM_append]

theorem run?_concat (d : Dispatch) (steps : List Step) (step : Step) :
    d.run? (steps ++ [step]) = (d.run? steps).bind fun d' => d'.step? step := by
  rw [run?_append]
  simp [run?]

theorem filterMap_stored (notices : List StoreNotice) :
    (notices.map fun n => Entry.noted (.store n)).filterMap notPosted? =
      notices.map fun | .notPosted key => key := by
  rw [List.filterMap_map, ← List.filterMap_eq_map]
  rfl

theorem filterMap_undelivered (key : Text) (reasons : List Text) :
    (reasons.map fun reason => Entry.noted (.notDelivered key reason)).filterMap notPosted? = [] := by
  simp [List.filterMap_map, notPosted?]

/-! ## The invariant -/

/-- What has become of the changes that the calls among the steps made. -/
structure Traced (eventKey : Text) (computed : List Text) (steps : List Step) (d : Dispatch) : Prop where
  eventKey_eq : d.store.eventKey = eventKey
  shows : d.store.Shows computed (contentsAfter (callsOf steps))
  closed_eq : d.store.closed = (callsOf steps).any StoreCall.isClose
  closed_of_closing : 0 < d.closing → d.store.closed
  closed_of_shut : d.shut → d.store.closed
  /-- Every change before the close has been posted, is posted now, or waits, in this order. -/
  changes_eq : d.finished.map Prod.fst ++ d.current.toList ++ d.store.pending =
    changesBeforeClose computed (callsOf steps)
  posted_eq : d.posted = (d.finished.map Prod.fst ++ d.current.toList).map (.ofChange eventKey)
  endings_eq : d.finished.map Prod.snd = endingsOf steps
  reported_eq : d.log.filterMap notPosted? = (changesAfterClose computed (callsOf steps)).map Change.key
  refused_eq : d.refused = []

variable {d d' : Dispatch} {eventKey : Text} {computed : List Text} {steps : List Step}

theorem traced_start (eventKey : Text) (fixed : List (Text × DynamicKind)) :
    Traced eventKey (fixed.map Prod.fst) [] (start (Store.new eventKey fixed)) := by
  have hshows := Store.shows_new eventKey fixed
  obtain ⟨bindings, keys, hnew⟩ := Store.exists_new eventKey fixed
  rw [hnew] at hshows ⊢
  exact {
    eventKey_eq := rfl
    shows := hshows
    closed_eq := rfl
    closed_of_closing := fun h => absurd h (Nat.lt_irrefl 0)
    closed_of_shut := fun h => by cases h
    changes_eq := rfl
    posted_eq := rfl
    endings_eq := rfl
    reported_eq := rfl
    refused_eq := rfl }

/-- Nothing is refused: a queue that has been shut belongs to a closed store, whose calls put nothing in it. -/
theorem perform_of_traced (hk : eventKey ≠ []) (h : Traced eventKey computed steps d) (call : StoreCall) :
    d.perform call = { d with
      store := (call.perform d.store).1
      closing := if call.isClose then d.closing + 1 else d.closing
      log := d.log ++ (call.perform d.store).2.map fun n => Entry.noted (.store n) } := by
  have hqueue := (Store.queue_perform (h.eventKey_eq ▸ hk) h.shows call).1
  rw [perform]
  split
  · next hshut =>
    rw [if_pos (h.closed_of_shut hshut), List.append_nil] at hqueue
    rw [hqueue, List.drop_length, List.append_nil, ← hqueue]
  · rfl

theorem traced_call (hk : eventKey ≠ []) (h : Traced eventKey computed steps d) (caller : Caller)
    (call : StoreCall) : Traced eventKey computed (steps ++ [.call caller call]) (d.perform call) := by
  have hcalls : callsOf (steps ++ [.call caller call]) = callsOf steps ++ [call] := by
    simp [callsOf, Step.call?]
  have hendings : endingsOf (steps ++ [.call caller call]) = endingsOf steps := by
    simp [endingsOf, Step.ending?]
  obtain ⟨hpending, hnotices⟩ := Store.queue_perform (h.eventKey_eq ▸ hk) h.shows call
  have hclosed := Store.closed_perform d.store call
  rw [perform_of_traced hk h]
  refine ⟨?_, ?_, ?_, fun hclosing => ?_, fun hshut => ?_, ?_, h.posted_eq, ?_, ?_, h.refused_eq⟩
  · exact (Store.eventKey_perform d.store call).trans h.eventKey_eq
  · rw [hcalls, contentsAfter_concat]
    exact Store.shows_perform h.shows call
  · rw [hcalls, hclosed, h.closed_eq]
    simp
  · rw [hclosed]
    cases hclose : call.isClose with
    | false =>
      rw [hclose, if_neg Bool.false_ne_true] at hclosing
      rw [h.closed_of_closing hclosing, Bool.true_or]
    | true => exact Bool.or_true _
  · rw [hclosed, h.closed_of_shut hshut, Bool.true_or]
  · rw [hpending, h.closed_eq, hcalls, changesBeforeClose_concat, ← List.append_assoc, h.changes_eq]
  · rw [hendings]
    exact h.endings_eq
  · rw [List.filterMap_append, h.reported_eq, filterMap_stored, hnotices, h.closed_eq, hcalls,
      changesAfterClose_concat, List.map_append]
    cases (callsOf steps).any StoreCall.isClose <;> simp

/-- A step that is no call and ends no post adds nothing to what the invariant says. -/
theorem traced_concat (h : Traced eventKey computed steps d) (step : Step) (hcall : step.call? = none)
    (hending : step.ending? = none) : Traced eventKey computed (steps ++ [step]) d := by
  have hcalls : callsOf (steps ++ [step]) = callsOf steps := by
    simp [callsOf, hcall]
  have hendings : endingsOf (steps ++ [step]) = endingsOf steps := by
    simp [endingsOf, hending]
  obtain ⟨hkey, hshows, hclosed, hclosing, hshut, hchanges, hposted, hended, hreported, hrefused⟩ := h
  rw [← hcalls] at hshows hclosed hchanges hreported
  rw [← hendings] at hended
  exact ⟨hkey, hshows, hclosed, hclosing, hshut, hchanges, hposted, hended, hreported, hrefused⟩

theorem traced_shut (h : Traced eventKey computed steps d) (hclosing : 0 < d.closing) :
    Traced eventKey computed (steps ++ [.shut]) { d with closing := d.closing - 1, shut := true } :=
  { traced_concat h .shut rfl rfl with
    closed_of_closing := fun _ => h.closed_of_closing hclosing
    closed_of_shut := fun _ => h.closed_of_closing hclosing }

theorem traced_take (h : Traced eventKey computed steps d) {change : Change} {later : List Change}
    (hcurrent : d.current = none) (hpending : d.store.pending = change :: later) :
    Traced eventKey computed (steps ++ [.take]) { d with
      store := { d.store with pending := later }
      current := some change
      posted := d.posted ++ [.ofChange d.store.eventKey change] } := by
  have h' := traced_concat h .take rfl rfl
  have hchanges := h'.changes_eq
  rw [hcurrent, hpending] at hchanges
  refine { h' with
    shows := ⟨h'.shows.fixed_eq, h'.shows.dynamic_iff, h'.shows.get_eq⟩
    changes_eq := ?_
    posted_eq := ?_ }
  · simpa using hchanges
  · rw [h.posted_eq, hcurrent, h.eventKey_eq]
    simp

theorem traced_handlerFails (h : Traced eventKey computed steps d) (reason : Failure) :
    Traced eventKey computed (steps ++ [.handlerFails reason])
      { d with log := d.log ++ [Entry.handlerFailed d.store.eventKey reason] } := by
  have h' := traced_concat h (.handlerFails reason) rfl rfl
  refine { h' with reported_eq := ?_ }
  rw [List.filterMap_append, h'.reported_eq]
  exact List.append_nil _

theorem traced_finish (h : Traced eventKey computed steps d) {change : Change}
    (hcurrent : d.current = some change) (failure : Option Text) :
    Traced eventKey computed (steps ++ [.finish failure]) { d with
      current := none
      finished := d.finished ++ [(change, failure)]
      log := d.log ++ failure.toList.map fun reason => Entry.noted (.notDelivered change.key reason) } := by
  have hcalls : callsOf (steps ++ [.finish failure]) = callsOf steps := by
    simp [callsOf, Step.call?]
  have hendings : endingsOf (steps ++ [.finish failure]) = endingsOf steps ++ [failure] := by
    simp [endingsOf, Step.ending?]
  have hchanges := h.changes_eq
  have hposted := h.posted_eq
  rw [hcurrent] at hchanges hposted
  refine ⟨h.eventKey_eq, ?_, ?_, h.closed_of_closing, h.closed_of_shut, ?_, ?_, ?_, ?_, h.refused_eq⟩
  · rw [hcalls]
    exact h.shows
  · rw [hcalls]
    exact h.closed_eq
  · rw [hcalls]
    simpa using hchanges
  · simpa using hposted
  · rw [hendings, List.map_append, h.endings_eq]
    rfl
  · rw [hcalls, List.filterMap_append, h.reported_eq, filterMap_undelivered, List.append_nil]

theorem traced_step (hk : eventKey ≠ []) (h : Traced eventKey computed steps d) {step : Step}
    (hs : d.step? step = some d') : Traced eventKey computed (steps ++ [step]) d' := by
  cases step with
  | call caller call =>
    simp only [step?] at hs
    split at hs
    · obtain rfl := Option.some.inj hs
      exact traced_call hk h caller call
    · cases hs
  | shut =>
    simp only [step?] at hs
    split at hs
    · next hclosing =>
      obtain rfl := Option.some.inj hs
      exact traced_shut h hclosing
    · cases hs
  | take =>
    simp only [step?, Store.nextPending?] at hs
    split at hs
    · next hcurrent hnext =>
      obtain rfl := Option.some.inj hs
      split at hnext
      · cases hnext
      · next hpending =>
        obtain ⟨rfl, rfl⟩ := Prod.mk.inj (Option.some.inj hnext)
        exact traced_take h hcurrent hpending
    · cases hs
  | handlerFails reason =>
    obtain ⟨change, -, rfl⟩ := Option.map_eq_some_iff.1 hs
    exact traced_handlerFails h reason
  | finish failure =>
    obtain ⟨change, hcurrent, rfl⟩ := Option.map_eq_some_iff.1 hs
    exact traced_finish h hcurrent failure

theorem traced_run? (hk : eventKey ≠ []) (fixed : List (Text × DynamicKind))
    (h : (start (Store.new eventKey fixed)).run? steps = some d) :
    Traced eventKey (fixed.map Prod.fst) steps d := by
  induction steps using List.reverseRecOn generalizing d with
  | nil =>
    obtain rfl := Option.some.inj h
    exact traced_start eventKey fixed
  | append_singleton steps step ih =>
    rw [run?_concat] at h
    obtain ⟨d', hrun, hstep⟩ := Option.bind_eq_some_iff.1 h
    exact traced_step hk (ih hrun) hstep

/-! ## Runs -/

theorem finished_eq (h : Traced eventKey computed steps d) :
    d.finished = (changesBeforeClose computed (callsOf steps)).zip (endingsOf steps) := by
  have hlength : (d.finished.map Prod.fst).length = (endingsOf steps).length := by
    rw [← h.endings_eq, List.length_map, List.length_map]
  rw [← h.changes_eq, List.append_assoc, ← List.append_nil (endingsOf steps), List.zip_append hlength,
    List.zip_nil_right, List.append_nil, ← h.endings_eq]
  exact List.zip_of_prod rfl rfl

theorem exists_posted (hcurrent : d.current = none) {change : Change} {later : List Change}
    (hpending : d.store.pending = change :: later) :
    ∃ d', d.run? [.take, .finish none] = some d' ∧ d'.current = none ∧ d'.store.pending = later := by
  simp [run?, step?, Store.nextPending?, hcurrent, hpending]

theorem exists_drained_of_idle (hcurrent : d.current = none) :
    ∃ steps d', callsOf steps = [] ∧ d.run? steps = some d' ∧ d'.current = none ∧ d'.store.pending = [] := by
  induction hpending : d.store.pending generalizing d with
  | nil => exact ⟨[], d, rfl, rfl, hcurrent, hpending⟩
  | cons change later ih =>
    obtain ⟨d', htaken, hcurrent', hpending'⟩ := exists_posted hcurrent hpending
    obtain ⟨steps, d'', hcalls, hrun, hidle, hdrained⟩ := ih hcurrent' hpending'
    refine ⟨.take :: .finish none :: steps, d'', hcalls, ?_, hidle, hdrained⟩
    exact (run?_append d [.take, .finish none] steps).trans (by rw [htaken, Option.bind_some, hrun])

/-- Whatever has happened, the worker can post all that waits. -/
theorem exists_drained (d : Dispatch) :
    ∃ steps d', callsOf steps = [] ∧ d.run? steps = some d' ∧ d'.current = none ∧ d'.store.pending = [] := by
  cases hcurrent : d.current with
  | none => exact exists_drained_of_idle hcurrent
  | some change =>
    have hfinish : ∃ d', d.step? (.finish none) = some d' ∧ d'.current = none := by
      simp [step?, hcurrent]
    obtain ⟨d', hstep, hidle⟩ := hfinish
    obtain ⟨steps, d'', hcalls, hrun, hdone⟩ := exists_drained_of_idle hidle
    refine ⟨.finish none :: steps, d'', hcalls, ?_, hdone⟩
    simpa [run?, hstep] using hrun

/-- In every run, what has been posted and what waits are the changes that calls made before the close, in the
order of the calls. The post of each ends in its turn, also after one that failed. Later changes are stored and
reported, and none comes to a queue that has been shut. -/
theorem deliveries_of_run? (hk : eventKey ≠ []) (fixed : List (Text × DynamicKind))
    (h : (start (Store.new eventKey fixed)).run? steps = some d) :
    d.posted ++ d.store.pending.map (.ofChange eventKey) =
        (changesBeforeClose (fixed.map Prod.fst) (callsOf steps)).map (.ofChange eventKey) ∧
      d.finished = (changesBeforeClose (fixed.map Prod.fst) (callsOf steps)).zip (endingsOf steps) ∧
      (∀ r key, key ∉ fixed.map Prod.fst → d.store.get? r key = contentsAfter (callsOf steps) key) ∧
      d.log.filterMap notPosted? =
        (changesAfterClose (fixed.map Prod.fst) (callsOf steps)).map Change.key ∧
      d.refused = [] := by
  have htraced := traced_run? hk fixed h
  refine ⟨?_, finished_eq htraced, fun r key hkey => Store.get?_of_shows htraced.shows r hkey,
    htraced.reported_eq, htraced.refused_eq⟩
  rw [htraced.posted_eq, ← List.map_append, htraced.changes_eq]

/-- A handler writes back while it is posted to, a sink fails, and a client closes the store while a change waits.
The changes of `roomid` that are none, the write to `time`, and what is written after the close are not posted. -/
def farewell : List Step :=
  let set (key value : String) : StoreCall :=
    .set ⟨⟨0, .unknown⟩, .default⟩ key.toList (some value.toList)
  [.call .client (set "roomid" "42"), .call .client (set "roomid" "42"), .call .client (set "time" "noon"), .take,
    .call .handler (set "seen" "yes"), .handlerFails (.handler "boom".toList),
    .call .client (.remove "roomid".toList), .call .client (set "roomid" "42"), .finish (some "down".toList),
    .take, .call .client .close, .call .client (set "roomid" "43"), .finish none, .shut,
    .call .client (set "target" "orc")]

theorem deliveries_of_run?_farewell :
    ∃ d, (start (Store.global "changed".toList)).run? farewell = some d ∧
      d.posted ++ d.store.pending.map (.ofChange "changed".toList) =
        [⟨"changed".toList, [("roomid".toList, "42".toList)]⟩, ⟨"changed".toList, [("seen".toList, "yes".toList)]⟩,
          ⟨"changed".toList, [("roomid".toList, "42".toList)]⟩] ∧
      d.finished = [(⟨"roomid".toList, "42".toList⟩, some "down".toList), (⟨"seen".toList, "yes".toList⟩, none)] ∧
      d.log.filterMap notPosted? = ["roomid".toList, "target".toList] := by
  obtain ⟨d, hd⟩ := Option.isSome_iff_exists.1
    (show ((start (Store.global "changed".toList)).run? farewell).isSome from by decide)
  obtain ⟨hposted, hfinished, -, hreported, -⟩ := deliveries_of_run? (by decide) _ hd
  refine ⟨d, hd, ?_, ?_, ?_⟩
  · rw [hposted]
    decide
  · rw [hfinished]
    decide
  · rw [hreported]
    decide

end MudClient.Session.Dispatch
