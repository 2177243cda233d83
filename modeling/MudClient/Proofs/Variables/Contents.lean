import Mathlib.Data.List.TakeWhile
import MudClient.Variables.Store

/-!
# What calls make of a store

* `StoreCall.rewrite`, `contentsAfter`: the texts of the variables that calls lead to
* `StoreCall.change?`, `changes`: the changes that calls make to given texts
* `changesBeforeClose`, `changesAfterClose`: the changes up to the first close, and from then on
* `Store.Shows`: the variables of a store have given texts
* `Store.set_eq`, `Store.shows_perform`, `Store.queue_perform`: a call on a store that shows given texts
-/

set_option autoImplicit false

namespace MudClient.Variables

/-! ## Texts and changes -/

/-- The texts of the variables that are not computed. -/
abbrev Contents := Text → Option Text

namespace StoreCall

def rewrite (contents : Contents) : StoreCall → Contents
  | set _ key value => fun k => if k = key then some (value.getD []) else contents k
  | remove key => fun k => if k = key then none else contents k
  | clear => fun _ => none
  | close => contents

/-- The change that a call makes. A text that is there already is none, nor is one for a computed variable. -/
def change? (computed : List Text) (contents : Contents) : StoreCall → Option Change
  | set _ key value =>
    if key ∈ computed ∨ contents key = some (value.getD []) then none else some ⟨key, value.getD []⟩
  | _ => none

end StoreCall

/-- The texts after calls on variables of which none has a text. -/
def contentsAfter (calls : List StoreCall) : Contents :=
  calls.foldl StoreCall.rewrite fun _ => none

/-- The changes that calls make one after the other. -/
def changes (computed : List Text) : Contents → List StoreCall → List Change
  | _, [] => []
  | contents, call :: later =>
    (call.change? computed contents).toList ++ changes computed (call.rewrite contents) later

def beforeClose (calls : List StoreCall) : List StoreCall :=
  calls.takeWhile fun call => !call.isClose

/-- The calls from the first close on. -/
def fromClose (calls : List StoreCall) : List StoreCall :=
  calls.dropWhile fun call => !call.isClose

def changesBeforeClose (computed : List Text) (calls : List StoreCall) : List Change :=
  changes computed (fun _ => none) (beforeClose calls)

def changesAfterClose (computed : List Text) (calls : List StoreCall) : List Change :=
  changes computed (contentsAfter (beforeClose calls)) (fromClose calls)

section

variable {computed : List Text} {contents : Contents} {calls : List StoreCall} {call : StoreCall}

theorem contentsAfter_concat (calls : List StoreCall) (call : StoreCall) :
    contentsAfter (calls ++ [call]) = call.rewrite (contentsAfter calls) := by
  simp [contentsAfter]

theorem changes_append (computed : List Text) (contents : Contents) (calls later : List StoreCall) :
    changes computed contents (calls ++ later) =
      changes computed contents calls ++ changes computed (calls.foldl StoreCall.rewrite contents) later := by
  induction calls generalizing contents with
  | nil => rfl
  | cons call calls ih => simp only [List.cons_append, changes, ih, List.foldl_cons, List.append_assoc]

theorem changes_concat (computed : List Text) (contents : Contents) (calls : List StoreCall)
    (call : StoreCall) :
    changes computed contents (calls ++ [call]) = changes computed contents calls ++
      (call.change? computed (calls.foldl StoreCall.rewrite contents)).toList := by
  rw [changes_append, changes, changes, List.append_nil]

theorem change?_close (h : call.isClose) : call.change? computed contents = none := by
  cases call <;> first | rfl | cases h

theorem beforeClose_append_fromClose (calls : List StoreCall) : beforeClose calls ++ fromClose calls = calls :=
  List.takeWhile_append_dropWhile

theorem contentsAfter_eq (calls : List StoreCall) :
    contentsAfter calls = (fromClose calls).foldl StoreCall.rewrite (contentsAfter (beforeClose calls)) := by
  rw [contentsAfter, contentsAfter, ← List.foldl_append, beforeClose_append_fromClose]

section

variable (h : calls.any StoreCall.isClose = false)
include h

theorem beforeClose_eq_self : beforeClose calls = calls := by
  rw [beforeClose, List.takeWhile_eq_self_iff]
  simpa using h

theorem beforeClose_append (later : List StoreCall) : beforeClose (calls ++ later) = calls ++ beforeClose later :=
  List.takeWhile_append_of_pos (by simpa using h)

theorem fromClose_eq_nil : fromClose calls = [] := by
  rw [fromClose, List.dropWhile_eq_nil_iff]
  simpa using h

theorem fromClose_append (later : List StoreCall) : fromClose (calls ++ later) = fromClose later :=
  List.dropWhile_append_of_pos (by simpa using h)

end

section

variable (h : calls.any StoreCall.isClose)
include h

theorem beforeClose_append_of_closed (later : List StoreCall) :
    beforeClose (calls ++ later) = beforeClose calls := by
  induction calls with
  | nil => cases h
  | cons call calls ih =>
    cases hc : call.isClose with
    | false =>
      have hcalls : calls.any StoreCall.isClose := by simpa [hc] using h
      simpa [beforeClose, hc] using ih hcalls
    | true => simp [beforeClose, hc]

theorem fromClose_append_of_closed (later : List StoreCall) :
    fromClose (calls ++ later) = fromClose calls ++ later := by
  have hall := beforeClose_append_fromClose (calls ++ later)
  rw [beforeClose_append_of_closed h] at hall
  rw [← List.append_right_inj (beforeClose calls), hall, ← List.append_assoc, beforeClose_append_fromClose]

end

theorem changesBeforeClose_concat (computed : List Text) (calls : List StoreCall) (call : StoreCall) :
    changesBeforeClose computed (calls ++ [call]) = changesBeforeClose computed calls ++
      if calls.any StoreCall.isClose then [] else (call.change? computed (contentsAfter calls)).toList := by
  cases h : calls.any StoreCall.isClose with
  | false =>
    rw [changesBeforeClose, beforeClose_append h, changesBeforeClose, beforeClose_eq_self h]
    cases hcall : call.isClose with
    | false =>
      have hbefore : beforeClose [call] = [call] := by simp [beforeClose, hcall]
      rw [hbefore, changes_concat]
      rfl
    | true =>
      have hbefore : beforeClose [call] = [] := by simp [beforeClose, hcall]
      rw [hbefore, change?_close hcall]
      simp
  | true =>
    rw [changesBeforeClose, beforeClose_append_of_closed h, changesBeforeClose]
    simp

theorem changesAfterClose_concat (computed : List Text) (calls : List StoreCall) (call : StoreCall) :
    changesAfterClose computed (calls ++ [call]) = changesAfterClose computed calls ++
      if calls.any StoreCall.isClose then (call.change? computed (contentsAfter calls)).toList else [] := by
  cases h : calls.any StoreCall.isClose with
  | false =>
    rw [changesAfterClose, fromClose_append h, changesAfterClose, fromClose_eq_nil h]
    cases hcall : call.isClose with
    | false =>
      have hfrom : fromClose [call] = [] := by simp [fromClose, hcall]
      rw [hfrom]
      rfl
    | true =>
      have hfrom : fromClose [call] = [call] := by simp [fromClose, hcall]
      simp [hfrom, changes, change?_close hcall]
  | true =>
    rw [changesAfterClose, beforeClose_append_of_closed h, fromClose_append_of_closed h, changes_concat,
      ← contentsAfter_eq]
    rfl

end

/-! ## Stores -/

namespace Store

/-- The variables of a store have these texts but for the computed ones, which are those that it had from the
start. -/
structure Shows (s : Store) (computed : List Text) (contents : Contents) : Prop where
  fixed_eq : s.fixed.map Prod.fst = computed
  dynamic_iff : ∀ key, key ∈ s.dynamicKeys ↔ key ∈ computed
  get_eq : ∀ key, key ∉ computed →
    s.bindings.get? key = (contents key).map fun text => Binding.literal (some text)

variable {s : Store} {computed : List Text} {contents : Contents}

theorem exists_addDynamics (s : Store) (kinds : List (Text × DynamicKind)) :
    ∃ bindings keys, s.addDynamics kinds = { s with bindings := bindings, dynamicKeys := keys } := by
  induction kinds generalizing s with
  | nil => exact ⟨_, _, rfl⟩
  | cons p kinds ih => exact ih (s.addDynamic p.1 p.2)

theorem mem_addDynamics (s : Store) (kinds : List (Text × DynamicKind)) (key : Text) :
    key ∈ (s.addDynamics kinds).dynamicKeys ↔ key ∈ s.dynamicKeys ∨ key ∈ kinds.map Prod.fst := by
  induction kinds generalizing s with
  | nil => simp [addDynamics]
  | cons p kinds ih =>
    have hkeys : key ∈ (s.addDynamic p.1 p.2).dynamicKeys ↔ key ∈ s.dynamicKeys ∨ key = p.1 := by
      simp only [addDynamic]
      split
      · next h => exact ⟨.inl, fun hkey => hkey.elim id fun hkey => hkey ▸ h⟩
      · simp
    change key ∈ ((s.addDynamic p.1 p.2).addDynamics kinds).dynamicKeys ↔ _
    rw [ih, hkeys, or_assoc, List.map_cons, List.mem_cons]

theorem get?_addDynamics (s : Store) {kinds : List (Text × DynamicKind)} {key : Text}
    (h : key ∉ kinds.map Prod.fst) : (s.addDynamics kinds).bindings.get? key = s.bindings.get? key := by
  induction kinds generalizing s with
  | nil => rfl
  | cons p kinds ih =>
    simp only [List.map_cons, List.mem_cons, not_or] at h
    have hrest := ih (s.addDynamic p.1 p.2) h.2
    rw [addDynamic, OrderedMap.get?_insert, if_neg h.1] at hrest
    exact hrest

/-- A store without variables shows nothing once it has its computed ones. -/
theorem shows_addDynamics (hb : s.bindings = .empty) (hd : s.dynamicKeys = []) :
    (s.addDynamics s.fixed).Shows (s.fixed.map Prod.fst) fun _ => none := by
  refine ⟨?_, fun key => ?_, fun key hkey => ?_⟩
  · obtain ⟨bindings, keys, h⟩ := exists_addDynamics s s.fixed
    rw [h]
  · rw [mem_addDynamics, hd]
    simp
  · rw [get?_addDynamics s hkey, hb]
    rfl

theorem exists_new (eventKey : Text) (fixed : List (Text × DynamicKind)) :
    ∃ bindings keys, new eventKey fixed = ⟨eventKey, fixed, bindings, keys, [], false⟩ :=
  exists_addDynamics ⟨eventKey, fixed, .empty, [], [], false⟩ fixed

theorem shows_new (eventKey : Text) (fixed : List (Text × DynamicKind)) :
    (new eventKey fixed).Shows (fixed.map Prod.fst) fun _ => none :=
  shows_addDynamics rfl rfl

/-! ## Calls -/

theorem notify_eq (h : s.eventKey ≠ []) (change : Change) :
    s.notify change = ({ s with pending := s.pending ++ if s.closed then [] else [change] },
      if s.closed then [.notPosted change.key] else []) := by
  rw [notify, if_neg (by simpa using h)]
  split
  · simp
  · rfl

theorem exists_notify (s : Store) (change : Change) :
    ∃ pending, (s.notify change).1 = { s with pending := pending } := by
  rw [notify]
  split
  · exact ⟨_, rfl⟩
  · split <;> exact ⟨_, rfl⟩

/-- A set writes and reports the change that it makes, and does nothing if it makes none. -/
theorem set_eq (h : s.Shows computed contents) (r : Reading) (key : Text) (value : Option Text) :
    s.set r key value =
      if key ∈ computed ∨ contents key = some (value.getD []) then (s, [])
      else { s with bindings := s.bindings.insert key (.literal (some (value.getD []))) }.notify
        ⟨key, value.getD []⟩ := by
  by_cases hdynamic : key ∈ computed
  · have hkey : s.isDynamic key = true := by simp [isDynamic, h.dynamic_iff, hdynamic]
    simp [set, hkey, hdynamic]
  · have hkey : s.isDynamic key = false := by simp [isDynamic, h.dynamic_iff, hdynamic]
    have hany : (s.bindings.get? key).any (fun b => b.evaluate r == some (value.getD [])) =
        decide (contents key = some (value.getD [])) := by
      rw [h.get_eq key hdynamic, Option.any_map]
      cases contents key with
      | none => rfl
      | some text => simp [Binding.evaluate, Bool.beq_eq_decide_eq]
    simp [set, hkey, hany, hdynamic]

theorem bindings_set (h : s.Shows computed contents) (r : Reading) (key : Text) (value : Option Text) :
    (s.set r key value).1.bindings =
      if key ∈ computed ∨ contents key = some (value.getD []) then s.bindings
      else s.bindings.insert key (.literal (some (value.getD []))) := by
  rw [set_eq h]
  split
  · rfl
  · obtain ⟨pending, hpending⟩ := exists_notify
      { s with bindings := s.bindings.insert key (.literal (some (value.getD []))) } ⟨key, value.getD []⟩
    rw [hpending]

theorem shows_insert (h : s.Shows computed contents) (key text : Text) :
    ({ s with bindings := s.bindings.insert key (.literal (some text)) } : Store).Shows computed
      fun k => if k = key then some text else contents k := by
  refine ⟨h.fixed_eq, h.dynamic_iff, fun k hk => ?_⟩
  rw [OrderedMap.get?_insert, h.get_eq k hk]
  split <;> rfl

theorem shows_set (h : s.Shows computed contents) (r : Reading) (key : Text) (value : Option Text) :
    (s.set r key value).1.Shows computed fun k => if k = key then some (value.getD []) else contents k := by
  rw [set_eq h]
  split
  · next hsame =>
    -- nothing is written: the variable is computed, or has the text
    refine ⟨h.fixed_eq, h.dynamic_iff, fun k hk => ?_⟩
    rw [h.get_eq k hk]
    by_cases hkey : k = key
    · subst hkey
      rw [if_pos rfl, hsame.resolve_left hk]
    · rw [if_neg hkey]
  · obtain ⟨pending, hpending⟩ := exists_notify
      { s with bindings := s.bindings.insert key (.literal (some (value.getD []))) } ⟨key, value.getD []⟩
    have hshows := shows_insert h key (value.getD [])
    rw [hpending]
    exact ⟨hshows.fixed_eq, hshows.dynamic_iff, hshows.get_eq⟩

theorem shows_remove (h : s.Shows computed contents) (key : Text) :
    (s.remove key).Shows computed fun k => if k = key then none else contents k := by
  rw [remove]
  split
  · next hkey =>
    have hkey : key ∈ computed := by simpa [isDynamic, h.dynamic_iff] using hkey
    refine ⟨h.fixed_eq, h.dynamic_iff, fun k hk => ?_⟩
    have hne : k ≠ key := fun e => hk (e ▸ hkey)
    rw [h.get_eq k hk, if_neg hne]
  · refine ⟨h.fixed_eq, h.dynamic_iff, fun k hk => ?_⟩
    rw [OrderedMap.get?_erase, h.get_eq k hk]
    split <;> rfl

theorem shows_clear (h : s.Shows computed contents) : s.clear.Shows computed fun _ => none := by
  rw [← h.fixed_eq]
  exact shows_addDynamics (s := { s with bindings := .empty, dynamicKeys := [] }) rfl rfl

theorem shows_perform (h : s.Shows computed contents) (call : StoreCall) :
    (call.perform s).1.Shows computed (call.rewrite contents) := by
  cases call with
  | set r key value => exact shows_set h r key value
  | remove key => exact shows_remove h key
  | clear => exact shows_clear h
  | close => exact ⟨h.fixed_eq, h.dynamic_iff, h.get_eq⟩

theorem exists_remove (s : Store) (key : Text) : ∃ bindings, s.remove key = { s with bindings := bindings } := by
  rw [remove]
  split <;> exact ⟨_, rfl⟩

theorem exists_clear (s : Store) :
    ∃ bindings keys, s.clear = { s with bindings := bindings, dynamicKeys := keys } :=
  exists_addDynamics { s with bindings := .empty, dynamicKeys := [] } s.fixed

theorem exists_set (s : Store) (r : Reading) (key : Text) (value : Option Text) :
    ∃ bindings pending, (s.set r key value).1 = { s with bindings := bindings, pending := pending } := by
  rw [set]
  split
  · exact ⟨_, _, rfl⟩
  · split
    · exact ⟨_, _, rfl⟩
    · exact ⟨_, exists_notify _ _⟩

/-- A call changes neither the key under which changes are posted nor what is computed from the start. -/
theorem exists_perform (s : Store) (call : StoreCall) :
    ∃ bindings keys pending closed, (call.perform s).1 = ⟨s.eventKey, s.fixed, bindings, keys, pending, closed⟩ := by
  cases call with
  | set r key value =>
    obtain ⟨bindings, pending, h⟩ := exists_set s r key value
    exact ⟨_, _, _, _, h⟩
  | remove key =>
    obtain ⟨bindings, h⟩ := exists_remove s key
    exact ⟨_, _, _, _, h⟩
  | clear =>
    obtain ⟨bindings, keys, h⟩ := exists_clear s
    exact ⟨_, _, _, _, h⟩
  | close => exact ⟨_, _, _, _, rfl⟩

theorem eventKey_perform (s : Store) (call : StoreCall) : (call.perform s).1.eventKey = s.eventKey := by
  obtain ⟨bindings, keys, pending, closed, h⟩ := exists_perform s call
  rw [h]

theorem fixed_perform (s : Store) (call : StoreCall) : (call.perform s).1.fixed = s.fixed := by
  obtain ⟨bindings, keys, pending, closed, h⟩ := exists_perform s call
  rw [h]

theorem closed_perform (s : Store) (call : StoreCall) :
    (call.perform s).1.closed = (s.closed || call.isClose) := by
  cases call with
  | set r key value =>
    obtain ⟨bindings, pending, h⟩ := exists_set s r key value
    rw [StoreCall.perform, h]
    exact (Bool.or_false _).symm
  | remove key =>
    obtain ⟨bindings, h⟩ := exists_remove s key
    rw [StoreCall.perform, h]
    exact (Bool.or_false _).symm
  | clear =>
    obtain ⟨bindings, keys, h⟩ := exists_clear s
    rw [StoreCall.perform, h]
    exact (Bool.or_false _).symm
  | close => exact (Bool.or_true _).symm

theorem queue_set (hk : s.eventKey ≠ []) (h : s.Shows computed contents) (r : Reading) (key : Text)
    (value : Option Text) :
    let change := ((StoreCall.set r key value).change? computed contents).toList
    (s.set r key value).1.pending = s.pending ++ (if s.closed then [] else change) ∧
      (s.set r key value).2 = if s.closed then change.map fun c => .notPosted c.key else [] := by
  rw [set_eq h, StoreCall.change?]
  split
  · simp
  · rw [notify_eq (s := { s with bindings := s.bindings.insert key (.literal (some (value.getD []))) }) hk]
    simp

/-- A change goes to the end of the queue of an open store, and is reported by a closed one. Nothing else
reaches the queue or is reported. -/
theorem queue_perform (hk : s.eventKey ≠ []) (h : s.Shows computed contents) (call : StoreCall) :
    let change := (call.change? computed contents).toList
    (call.perform s).1.pending = s.pending ++ (if s.closed then [] else change) ∧
      (call.perform s).2 = if s.closed then change.map fun c => .notPosted c.key else [] := by
  cases call with
  | set r key value => exact queue_set hk h r key value
  | remove key =>
    obtain ⟨bindings, hremove⟩ := exists_remove s key
    simp [StoreCall.perform, hremove, StoreCall.change?]
  | clear =>
    obtain ⟨bindings, keys, hclear⟩ := exists_clear s
    simp [StoreCall.perform, hclear, StoreCall.change?]
  | close => simp [StoreCall.perform, close, StoreCall.change?]

theorem get?_of_shows (h : s.Shows computed contents) (r : Reading) {key : Text} (hkey : key ∉ computed) :
    s.get? r key = contents key := by
  rw [get?, h.get_eq key hkey]
  cases contents key <;> rfl

end Store

end MudClient.Variables
