import MudClient.Proofs.Variables.Writes
import MudClient.Session.Dispatch

/-!
# Computed variables stay computed

* `Store.Keeps`: a store with the computed variables that it had from the start, and texts for all others
* `Store.keeps_perform`: a call on such a store
* `Trail`: all dispatches that a store has been in, one for each step
* `Reception`, `Deed`: lines that are classified while other things go on, and whatever else is done
* `Trail.all_performAll`: what every step keeps holds at all points of a trail
* `Dispatch.Guarded`, `guarded_global_and_plain`: computed variables are out of reach
-/

set_option autoImplicit false

namespace MudClient

/-! ## Stores -/

namespace Variables.Store

/-- The computed variables are those that the store had from the start, and each of them is computed still. -/
structure Keeps (s : Store) (fixed : List (Text × DynamicKind)) : Prop where
  fixed_eq : s.fixed = fixed
  shows : ∃ contents, s.Shows (fixed.map Prod.fst) contents
  computed : ∀ p ∈ fixed, s.bindings.get? p.1 = some (.computed p.2)

variable {s : Store} {fixed : List (Text × DynamicKind)}

theorem Keeps.setPending (h : s.Keeps fixed) (pending : List Change) : { s with pending := pending }.Keeps fixed :=
  ⟨h.fixed_eq, h.shows.imp fun _ hs => ⟨hs.fixed_eq, hs.dynamic_iff, hs.get_eq⟩, h.computed⟩

theorem Keeps.mem_dynamicKeys (h : s.Keeps fixed) (key : Text) : key ∈ s.dynamicKeys ↔ key ∈ fixed.map Prod.fst :=
  h.shows.elim fun _ hshows => hshows.dynamic_iff key

theorem Keeps.exists_literal (h : s.Keeps fixed) {key : Text} {binding : Binding} (hkey : key ∉ fixed.map Prod.fst)
    (hget : s.bindings.get? key = some binding) : ∃ text, binding = .literal (some text) := by
  obtain ⟨contents, hshows⟩ := h.shows
  rw [hshows.get_eq key hkey, Option.map_eq_some_iff] at hget
  obtain ⟨text, -, rfl⟩ := hget
  exact ⟨text, rfl⟩

theorem Keeps.computed_iff (h : s.Keeps fixed) (key : Text) (kind : DynamicKind) :
    s.bindings.get? key = some (.computed kind) ↔ (key, kind) ∈ fixed := by
  refine ⟨fun hget => ?_, h.computed (key, kind)⟩
  by_cases hkey : key ∈ fixed.map Prod.fst
  · obtain ⟨p, hp, rfl⟩ := List.mem_map.1 hkey
    obtain rfl : p.2 = kind := by simpa [h.computed p hp] using hget
    exact hp
  · obtain ⟨text, hliteral⟩ := h.exists_literal hkey hget
    cases hliteral

theorem Keeps.declared (h : s.Keeps fixed) : s.Declared :=
  fun key kind hget => (h.mem_dynamicKeys key).2 (List.mem_map_of_mem ((h.computed_iff key kind).1 hget))

theorem get?_addDynamics_of_mem (s : Store) {kinds : List (Text × DynamicKind)} (hkinds : (kinds.map Prod.fst).Nodup)
    {p : Text × DynamicKind} (hp : p ∈ kinds) :
    (s.addDynamics kinds).bindings.get? p.1 = some (.computed p.2) := by
  induction kinds generalizing s with
  | nil => cases hp
  | cons q kinds ih =>
    obtain ⟨hq, hkinds⟩ := List.nodup_cons.1 hkinds
    rcases List.mem_cons.1 hp with rfl | hp
    · exact (get?_addDynamics (s.addDynamic p.1 p.2) hq).trans (by rw [addDynamic, OrderedMap.get?_insert, if_pos rfl])
    · exact ih (s.addDynamic q.1 q.2) hkinds hp

theorem keeps_fresh (hfixed : (s.fixed.map Prod.fst).Nodup) (hb : s.bindings = .empty) (hd : s.dynamicKeys = []) :
    (s.addDynamics s.fixed).Keeps s.fixed := by
  refine ⟨?_, ⟨_, shows_addDynamics hb hd⟩, fun p hp => get?_addDynamics_of_mem s hfixed hp⟩
  obtain ⟨bindings, keys, h⟩ := exists_addDynamics s s.fixed
  rw [h]

theorem keeps_new (eventKey : Text) (hfixed : (fixed.map Prod.fst).Nodup) : (new eventKey fixed).Keeps fixed :=
  keeps_fresh (s := ⟨eventKey, fixed, .empty, [], [], false⟩) hfixed rfl rfl

theorem ne_of_notMem {key : Text} (hkey : key ∉ fixed.map Prod.fst) {p : Text × DynamicKind} (hp : p ∈ fixed) :
    p.1 ≠ key :=
  fun e => hkey (e ▸ List.mem_map_of_mem hp)

theorem keeps_perform (hfixed : (fixed.map Prod.fst).Nodup) (h : s.Keeps fixed) (call : StoreCall) :
    (call.perform s).1.Keeps fixed := by
  obtain ⟨contents, hshows⟩ := h.shows
  refine ⟨(fixed_perform s call).trans h.fixed_eq, ⟨_, shows_perform hshows call⟩, fun p hp => ?_⟩
  cases call with
  | set r key value =>
    rw [StoreCall.perform, bindings_set hshows]
    split
    · exact h.computed p hp
    · next hkey =>
      rw [OrderedMap.get?_insert, if_neg (ne_of_notMem (not_or.1 hkey).1 hp)]
      exact h.computed p hp
  | remove key =>
    rw [StoreCall.perform, remove]
    split
    · exact h.computed p hp
    · next hkey =>
      have hkey : key ∉ fixed.map Prod.fst := by simpa [isDynamic, hshows.dynamic_iff] using hkey
      rw [OrderedMap.get?_erase, if_neg (ne_of_notMem hkey hp)]
      exact h.computed p hp
  | clear =>
    obtain rfl := h.fixed_eq
    exact get?_addDynamics_of_mem { s with bindings := .empty, dynamicKeys := [] } hfixed hp
  | close => exact h.computed p hp

theorem mem_pending_perform (h : s.Keeps fixed) (call : StoreCall) {change : Change}
    (hchange : change ∈ (call.perform s).1.pending) : change ∈ s.pending ∨ change.key ∉ fixed.map Prod.fst := by
  obtain ⟨contents, hshows⟩ := h.shows
  cases call with
  | set r key value =>
    rw [StoreCall.perform, set_eq hshows] at hchange
    split at hchange
    · exact .inl hchange
    · next hkey =>
      rw [notify] at hchange
      split at hchange
      · exact .inl hchange
      · split at hchange
        · exact .inl hchange
        · rcases List.mem_append.1 hchange with hchange | hchange
          · exact .inl hchange
          · rw [List.mem_singleton.1 hchange]
            exact .inr (not_or.1 hkey).1
  | remove key =>
    obtain ⟨bindings, hremove⟩ := exists_remove s key
    rw [StoreCall.perform, hremove] at hchange
    exact .inl hchange
  | clear =>
    obtain ⟨bindings, keys, hclear⟩ := exists_clear s
    rw [StoreCall.perform, hclear] at hchange
    exact .inl hchange
  | close => exact .inl hchange

end Variables.Store

namespace Session

open Markup (Tag)
open MudClient.Stream (GameEvent Receiver)
open Variables

/-! ## Trails -/

/-- The dispatches that a store has been in, oldest first, and the one that it is in now. -/
structure Trail where
  earlier : List Dispatch
  now : Dispatch

namespace Trail

def all (t : Trail) : List Dispatch :=
  t.earlier ++ [t.now]

def start (d : Dispatch) : Trail := ⟨[], d⟩

/-- One more step. A step that cannot be taken is left out. -/
def take (t : Trail) (step : Dispatch.Step) : Trail :=
  match t.now.step? step with
  | some d => ⟨t.all, d⟩
  | none => t

def takeAll (t : Trail) (steps : List Dispatch.Step) : Trail :=
  steps.foldl take t

end Trail

/-- The tags of a line that a client classifies, and what goes on around it. -/
structure Reception where
  tags : List Tag
  /-- What a text is compared with when it is written. -/
  reading : Trail → Reading
  /-- What others do before the next variable is written. -/
  meanwhile : Trail → List Dispatch.Step
  /-- What is done when an event is told, and whether that fails. -/
  handler : GameEvent → Trail → List Dispatch.Step × Option Failure

namespace Reception

def receiver (c : Reception) : Receiver Trail Failure where
  write key value t :=
    let t := t.takeAll (c.meanwhile t)
    t.take (.call .client (.set (c.reading t) key (some value)))
  handle event t :=
    let (steps, failure) := c.handler event t
    (failure, t.takeAll steps)

/-- The variables of the events are written one by one; tags that make no events write nothing. -/
def perform (c : Reception) (t : Trail) : Trail :=
  match GameEvent.ofTags c.tags with
  | .error _ => t
  | .ok events => (c.receiver.accept events t).2

end Reception

/-- What is done on a store: a step of clients, handlers and the worker, or a line that is classified. -/
inductive Deed
  | step (step : Dispatch.Step)
  | classify (reception : Reception)

def Deed.perform (t : Trail) : Deed → Trail
  | step s => t.take s
  | classify c => c.perform t

namespace Trail

def performAll (t : Trail) (deeds : List Deed) : Trail :=
  deeds.foldl Deed.perform t

section

variable {P : Dispatch → Prop} {t : Trail}

variable (hstep : ∀ d step d', P d → d.step? step = some d' → P d')
include hstep

theorem all_take (h : ∀ d ∈ t.all, P d) (step : Dispatch.Step) : ∀ d ∈ (t.take step).all, P d := by
  intro d hd
  rw [take] at hd
  split at hd
  · next d' hd' =>
    rcases List.mem_append.1 hd with hd | hd
    · exact h d hd
    · rw [List.mem_singleton.1 hd]
      exact hstep t.now step d' (h t.now (List.mem_append_right _ List.mem_cons_self)) hd'
  · exact h d hd

theorem all_takeAll (h : ∀ d ∈ t.all, P d) (steps : List Dispatch.Step) : ∀ d ∈ (t.takeAll steps).all, P d := by
  induction steps generalizing t with
  | nil => exact h
  | cons step steps ih => exact ih (all_take hstep h step)

theorem all_perform (deed : Deed) (h : ∀ d ∈ t.all, P d) : ∀ d ∈ (deed.perform t).all, P d := by
  cases deed with
  | step s => exact all_take hstep h s
  | classify c =>
    rw [Deed.perform, Reception.perform]
    split
    · exact h
    · exact Receiver.accept_induction (P := fun t : Trail => ∀ d ∈ t.all, P d)
        (fun key value t h => all_take hstep (all_takeAll hstep h _) _) (fun event t h => all_takeAll hstep h _) _ h

theorem all_performAll (deeds : List Deed) (h : ∀ d ∈ t.all, P d) : ∀ d ∈ (t.performAll deeds).all, P d := by
  induction deeds generalizing t with
  | nil => exact h
  | cons deed deeds ih => exact ih (all_perform hstep deed h)

end

end Trail

/-! ## Computed variables -/

namespace Dispatch

/-- The store keeps its computed variables, and no change that waits, was posted or was refused names one. -/
structure Kept (fixed : List (Text × DynamicKind)) (d : Dispatch) : Prop where
  keeps : d.store.Keeps fixed
  pending_notMem : ∀ change ∈ d.store.pending, change.key ∉ fixed.map Prod.fst
  posted_notMem : ∀ posting ∈ d.posted, ∀ p ∈ posting.data, p.1 ∉ fixed.map Prod.fst
  refused_notMem : ∀ change ∈ d.refused, change.key ∉ fixed.map Prod.fst

variable {d d' : Dispatch} {fixed : List (Text × DynamicKind)}

theorem kept_start (eventKey : Text) (hfixed : (fixed.map Prod.fst).Nodup) :
    Kept fixed (start (Store.new eventKey fixed)) := by
  have hkeeps := Store.keeps_new eventKey hfixed
  obtain ⟨bindings, keys, hnew⟩ := Store.exists_new eventKey fixed
  rw [hnew] at hkeeps ⊢
  exact ⟨hkeeps, nofun, nofun, nofun⟩

theorem kept_perform (hfixed : (fixed.map Prod.fst).Nodup) (h : Kept fixed d) (call : StoreCall) :
    Kept fixed (d.perform call) := by
  have hkeeps := Store.keeps_perform hfixed h.keeps call
  have hpending : ∀ change ∈ (call.perform d.store).1.pending, change.key ∉ fixed.map Prod.fst :=
    fun change hchange => (Store.mem_pending_perform h.keeps call hchange).elim (h.pending_notMem change) id
  rw [perform]
  split
  · refine ⟨hkeeps.setPending _, h.pending_notMem, h.posted_notMem, fun change hchange => ?_⟩
    rcases List.mem_append.1 hchange with hchange | hchange
    · exact h.refused_notMem change hchange
    · exact hpending change (List.mem_of_mem_drop hchange)
  · exact ⟨hkeeps, hpending, h.posted_notMem, h.refused_notMem⟩

theorem kept_take (h : Kept fixed d) {change : Change} {later : List Change}
    (hpending : d.store.pending = change :: later) :
    Kept fixed { d with
      store := { d.store with pending := later }
      current := some change
      posted := d.posted ++ [.ofChange d.store.eventKey change] } := by
  have hwaits : ∀ change' ∈ change :: later, change'.key ∉ fixed.map Prod.fst := hpending ▸ h.pending_notMem
  refine ⟨h.keeps.setPending _, fun change' hlater => hwaits change' (List.mem_cons_of_mem _ hlater),
    fun posting hposting p hp => ?_, h.refused_notMem⟩
  rcases List.mem_append.1 hposting with hposting | hposting
  · exact h.posted_notMem posting hposting p hp
  · obtain rfl := List.mem_singleton.1 hposting
    obtain rfl := List.mem_singleton.1 hp
    exact hwaits change List.mem_cons_self

theorem kept_step (hfixed : (fixed.map Prod.fst).Nodup) (h : Kept fixed d) {step : Step}
    (hs : d.step? step = some d') : Kept fixed d' := by
  cases step with
  | call caller call =>
    simp only [step?] at hs
    split at hs
    · obtain rfl := Option.some.inj hs
      exact kept_perform hfixed h call
    · cases hs
  | shut =>
    simp only [step?] at hs
    split at hs
    · obtain rfl := Option.some.inj hs
      exact ⟨h.keeps, h.pending_notMem, h.posted_notMem, h.refused_notMem⟩
    · cases hs
  | take =>
    simp only [step?, Store.nextPending?] at hs
    split at hs
    · next hnext =>
      obtain rfl := Option.some.inj hs
      split at hnext
      · cases hnext
      · next hpending =>
        obtain ⟨rfl, rfl⟩ := Prod.mk.inj (Option.some.inj hnext)
        exact kept_take h hpending
    · cases hs
  | handlerFails reason =>
    obtain ⟨change, -, rfl⟩ := Option.map_eq_some_iff.1 hs
    exact ⟨h.keeps, h.pending_notMem, h.posted_notMem, h.refused_notMem⟩
  | finish failure =>
    obtain ⟨change, -, rfl⟩ := Option.map_eq_some_iff.1 hs
    exact ⟨h.keeps, h.pending_notMem, h.posted_notMem, h.refused_notMem⟩

/-- The computed variables of a store are out of reach: exactly the given ones are computed, each by its own kind,
all others are texts, nothing that is on its way names a computed one, and a set compares texts with texts only. -/
structure Guarded (fixed : List (Text × DynamicKind)) (d : Dispatch) : Prop where
  computed_iff : ∀ key kind, d.store.bindings.get? key = some (.computed kind) ↔ (key, kind) ∈ fixed
  dynamic_iff : ∀ key, key ∈ d.store.dynamicKeys ↔ ∃ kind, d.store.bindings.get? key = some (.computed kind)
  literal : ∀ key binding, d.store.bindings.get? key = some binding → key ∉ d.store.dynamicKeys →
    ∃ text, binding = .literal (some text)
  get?_eq : ∀ key kind, (key, kind) ∈ fixed →
    ∀ r, d.store.get? r key = some (Calendar.format r.platform r.now (r.pattern kind))
  pending_notMem : ∀ change ∈ d.store.pending, change.key ∉ d.store.dynamicKeys
  posted_notMem : ∀ posting ∈ d.posted, ∀ p ∈ posting.data, p.1 ∉ d.store.dynamicKeys
  refused_notMem : ∀ change ∈ d.refused, change.key ∉ d.store.dynamicKeys
  set_eq : ∀ r r' key value, d.store.set r key value = d.store.set r' key value

theorem guarded_of_kept (h : Kept fixed d) : Guarded fixed d := by
  have hkeeps := h.keeps
  have hkey {key : Text} (hdynamic : key ∈ d.store.dynamicKeys) : key ∈ fixed.map Prod.fst :=
    (hkeeps.mem_dynamicKeys key).1 hdynamic
  exact {
    computed_iff := hkeeps.computed_iff
    dynamic_iff := fun key => by
      simp only [hkeeps.mem_dynamicKeys, hkeeps.computed_iff, List.mem_map, Prod.exists, exists_and_right,
        exists_eq_right]
    literal := fun key binding hget hdynamic =>
      hkeeps.exists_literal (fun hfixed => hdynamic ((hkeeps.mem_dynamicKeys key).2 hfixed)) hget
    get?_eq := fun key kind hp r => by
      rw [Store.get?, (hkeeps.computed_iff key kind).2 hp, Option.bind_some, Binding.evaluate]
    pending_notMem := fun change hchange hdynamic => h.pending_notMem change hchange (hkey hdynamic)
    posted_notMem := fun posting hposting p hp hdynamic => h.posted_notMem posting hposting p hp (hkey hdynamic)
    refused_notMem := fun change hchange hdynamic => h.refused_notMem change hchange (hkey hdynamic)
    set_eq := hkeeps.declared.set_eq_set }

end Dispatch

/-! ## Whatever is done -/

open Dispatch (Guarded)

/-- All points of the trail of a new store on which deeds are done. -/
def pointsOf (store : Store) (deeds : List Deed) : List Dispatch :=
  ((Trail.start (.start store)).performAll deeds).all

theorem guarded_of_mem_pointsOf (eventKey : Text) {fixed : List (Text × DynamicKind)}
    (hfixed : (fixed.map Prod.fst).Nodup) {deeds : List Deed} {d : Dispatch}
    (hd : d ∈ pointsOf (Store.new eventKey fixed) deeds) : Guarded fixed d := by
  refine Dispatch.guarded_of_kept (Trail.all_performAll (P := Dispatch.Kept fixed)
    (fun d step d' h hs => Dispatch.kept_step hfixed h hs) deeds (fun d hd => ?_) d hd)
  obtain rfl := List.mem_singleton.1 hd
  exact Dispatch.kept_start eventKey hfixed

/-- The game's store has three computed variables and a plain one has none, whatever is done. -/
theorem guarded_global_and_plain (eventKey : Text) (deeds : List Deed) :
    (∀ d ∈ pointsOf (Store.global eventKey) deeds, Guarded [("date".toList, .date), ("datetime".toList, .datetime),
      ("time".toList, .time)] d) ∧
    ∀ d ∈ pointsOf (Store.plain eventKey) deeds, Guarded [] d := by
  have hnone : (([] : List (Text × DynamicKind)).map Prod.fst).Nodup := List.nodup_nil
  constructor
  · exact fun d hd => guarded_of_mem_pointsOf eventKey (by decide) hd
  · exact fun d hd => guarded_of_mem_pointsOf eventKey hnone hd

/-- The exits of a room. The store is cleared before they are written, and the time is set by the handler of the event
and then by a handler of the hub. -/
def exits : Reception :=
  let reading : Reading := ⟨⟨0, .unknown⟩, .default⟩
  let setTime : StoreCall := .set reading "time".toList (some ['x'])
  { tags := [⟨"compass".toList, .empty, [], [], true⟩]
    reading := fun _ => reading
    meanwhile := fun _ => [.call .client .clear]
    handler := fun _ _ => ([.call .client setTime, .take, .call .handler setTime], none) }

theorem guarded_global_and_plain_exits :
    ∃ d ∈ pointsOf (Store.global ['k']) [.classify exits],
      d.posted = [⟨['k'], [("roomexitdirs".toList, [])]⟩] ∧ d.store.size = 4 ∧
        Guarded [("date".toList, .date), ("datetime".toList, .datetime), ("time".toList, .time)] d := by
  have hpoint : ∃ d ∈ pointsOf (Store.global ['k']) [.classify exits],
      d.posted = [⟨['k'], [("roomexitdirs".toList, [])]⟩] ∧ d.store.size = 4 := by decide
  obtain ⟨d, hd, hposted, hsize⟩ := hpoint
  exact ⟨d, hd, hposted, hsize, (guarded_global_and_plain ['k'] _).1 d hd⟩

end Session

end MudClient
