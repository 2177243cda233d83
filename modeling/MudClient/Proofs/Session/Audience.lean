import Mathlib.Data.List.Basic
import MudClient.Proofs.Stream.Account
import MudClient.Proofs.Variables.Writes
import MudClient.Session.Run

/-!
# What handlers find in the store

* `Receiver.classify`: the events of a line are made, and then passed on one by one
* `Receiver.calls`, `Receiver.accept_recording`: the calls of a handler with what it finds
* `Audience`: a store that is written to, if there is one, and a handler that leaves it alone
* `Audience.Informed`: how events reach an audience
* `Audience.informed_classify`: at every call the store has had the writes up to this event, and no others
* `Session.watching`: the handlers of a session are such an audience
-/

set_option autoImplicit false

namespace MudClient.Stream

open Markup (Tag)
open Text (TooManyDigits)
open Variables (Reading Store)

variable {σ ε : Type}

/-! ## Classification -/

namespace Receiver

/-- The events of a line, after all of them have been passed on. There are none if a tag cannot be
classified, and nothing is passed on then; nor are there any if a handler fails. -/
def classify (r : Receiver σ ε) (tags : List Tag) (s : σ) : Except (TooManyDigits ⊕ ε) (List GameEvent) × σ :=
  match GameEvent.ofTags tags with
  | .error e => (.error (.inl e), s)
  | .ok events =>
    match r.accept events s with
    | (none, s) => (.ok events, s)
    | (some failure, s) => (.error (.inr failure), s)

section

variable {r : Receiver σ ε} {tags : List Tag} {events : List GameEvent} {s s' : σ}

theorem classify_of_error {e : TooManyDigits} (h : GameEvent.ofTags tags = .error e) :
    r.classify tags s = (.error (.inl e), s) := by
  rw [classify, h]

theorem classify_of_passed (h : GameEvent.ofTags tags = .ok events) (haccept : r.accept events s = (none, s')) :
    r.classify tags s = (.ok events, s') := by
  rw [classify, h]
  simp only [haccept]

theorem classify_of_failed {failure : ε} (h : GameEvent.ofTags tags = .ok events)
    (haccept : r.accept events s = (some failure, s')) : r.classify tags s = (.error (.inr failure), s') := by
  rw [classify, h]
  simp only [haccept]

end

/-- Neither a store nor a handler. -/
def nobody : Receiver Unit Empty where
  write _ _ s := s
  handle _ s := (none, s)

theorem accept_nobody (events : List GameEvent) : nobody.accept events () = (none, ()) := by
  induction events with
  | nil => rfl
  | cons event events ih => exact ih

/-- The calls of the handler: the event that it is told of, and what it finds. -/
def calls (r : Receiver σ ε) : List GameEvent → σ → List (GameEvent × σ)
  | [], _ => []
  | event :: events, s =>
    let found := r.writeAll event s
    (event, found) ::
      match r.handle event found with
      | (some _, _) => []
      | (none, s) => r.calls events s

/-- The same with a handler that also takes down its calls. -/
def recording (r : Receiver σ ε) : Receiver (σ × List (GameEvent × σ)) ε where
  write key value s := (r.write key value s.1, s.2)
  handle event s := ((r.handle event s.1).1, (r.handle event s.1).2, s.2 ++ [(event, s.1)])

theorem writeAll_recording (r : Receiver σ ε) (event : GameEvent) (s : σ) (log : List (GameEvent × σ)) :
    r.recording.writeAll event (s, log) = (r.writeAll event s, log) := by
  rw [writeAll, writeAll]
  induction event.variables generalizing s with
  | nil => rfl
  | cons p ps ih => exact ih (r.write p.1 p.2 s)

/-- What is taken down are the calls, and nothing else is different. -/
theorem accept_recording (r : Receiver σ ε) (events : List GameEvent) (s : σ) (log : List (GameEvent × σ)) :
    r.recording.accept events (s, log) = ((r.accept events s).1, (r.accept events s).2, log ++ r.calls events s) := by
  induction events generalizing s log with
  | nil => simp [accept, calls]
  | cons event events ih =>
    have htaken (found : σ) : r.recording.handle event (found, log) =
        ((r.handle event found).1, (r.handle event found).2, log ++ [(event, found)]) := rfl
    simp only [accept, calls, writeAll_recording, htaken]
    cases r.handle event (r.writeAll event s) with
    | mk failure s' =>
      cases failure with
      | some failure => rfl
      | none =>
        have hrest := ih s' (log ++ [(event, r.writeAll event s)])
        rw [List.append_assoc] at hrest
        exact hrest

variable {r : Receiver σ ε} {event : GameEvent} {s s' : σ} {failure : ε}

/-- A handler that fails is not called again. -/
theorem calls_of_failed (h : r.handle event (r.writeAll event s) = (some failure, s')) (events : List GameEvent) :
    r.calls (event :: events) s = [(event, r.writeAll event s)] ∧
      r.accept (event :: events) s = (some failure, s') := by
  rw [calls, accept, h]
  exact ⟨rfl, rfl⟩

theorem calls_of_passed (h : r.handle event (r.writeAll event s) = (none, s')) (events : List GameEvent) :
    r.calls (event :: events) s = (event, r.writeAll event s) :: r.calls events s' ∧
      r.accept (event :: events) s = r.accept events s' := by
  rw [calls, accept, h]
  exact ⟨rfl, rfl⟩

end Receiver

/-! ## Audiences -/

/-- A store that variables are written to, if there is one, and a handler that does not change it. -/
structure Audience (σ ε : Type) extends Receiver σ ε where
  store? : σ → Option Store
  /-- The clock and the settings at that time. -/
  reading : σ → Reading
  store?_write : ∀ key value s,
    store? (write key value s) = (store? s).map fun store => (store.set (reading s) key (some value)).1
  store?_handle : ∀ event s, store? (handle event s).2 = store? s

namespace Audience

/-- What events write, in this order. -/
def writes (events : List GameEvent) : List (Text × Text) :=
  events.flatMap GameEvent.variables

variable {a : Audience σ ε} {s : σ} {event : GameEvent} {events : List GameEvent} {tags : List Tag}

/-- What events make of the variables of a store. -/
structure Updated (events : List GameEvent) (store final : Store) : Prop where
  /-- A variable that is not computed has the text of the last event that sets it, whatever the clock says. -/
  last : ∀ before event after key text, events = before ++ event :: after → (key, text) ∈ event.variables →
    key ∉ (writes after).map Prod.fst → key ∉ store.dynamicKeys → ∀ r, final.get? r key = some text
  /-- Every other variable has the binding that it had. -/
  other : ∀ key, key ∈ store.dynamicKeys ∨ key ∉ (writes events).map Prod.fst →
    final.bindings.get? key = store.bindings.get? key

theorem updated_setAll {store : Store} (h : store.Declared)
    (hkeys : ∀ event ∈ events, (event.variables.map Prod.fst).Nodup) (r : Reading) :
    Updated events store (store.setAll r (writes events)) := by
  refine ⟨?_, fun key hkey => Store.bindings_setAll_of_notMem r hkey⟩
  rintro before event after key text rfl hmem hafter hdynamic r'
  obtain ⟨ps, qs, hvariables⟩ := List.append_of_mem hmem
  have hnodup := hkeys event (by simp)
  have hwrites : writes (before ++ event :: after) = (writes before ++ ps) ++ (key, text) :: (qs ++ writes after) := by
    simp [writes, hvariables]
  have hlast : key ∉ (qs ++ writes after).map Prod.fst := by
    rw [hvariables, List.map_append, List.map_cons] at hnodup
    have hqs := (List.nodup_cons.1 (List.nodup_append.1 hnodup).2.1).1
    rw [List.map_append, List.mem_append, not_or]
    exact ⟨hqs, hafter⟩
  rw [hwrites]
  exact Store.get?_setAll_last h hdynamic hlast r r'

theorem declared_map {store? : Option Store} {f : Store → Store} (h : ∀ store ∈ store?, store.Declared)
    (hf : ∀ store, store.Declared → (f store).Declared) : ∀ store ∈ store?.map f, store.Declared := by
  intro store hstore
  obtain ⟨before, hbefore, rfl⟩ := Option.map_eq_some_iff.1 hstore
  exact hf before (h before hbefore)

theorem map_setAll (store? : Option Store) (r : Reading) (event : GameEvent) (events : List GameEvent) :
    (store?.map (·.setAll r event.variables)).map (·.setAll r (writes events)) =
      store?.map (·.setAll r (writes (event :: events))) := by
  rw [Option.map_map]
  congr 1
  funext store
  exact (Store.setAll_append store r event.variables (writes events)).symm

section

variable (h : ∀ store ∈ a.store? s, store.Declared) (r : Reading)
include h

theorem store?_writeAll : a.store? (a.writeAll event s) = (a.store? s).map (·.setAll r event.variables) := by
  rw [Receiver.writeAll]
  induction event.variables generalizing s with
  | nil => simp [Store.setAll]
  | cons p ps ih =>
    -- the clock may go on between two writes, but a set does not depend on it
    have hwrite : a.store? (a.write p.1 p.2 s) = (a.store? s).map fun store => (store.set r p.1 (some p.2)).1 := by
      rw [a.store?_write]
      exact Option.map_congr fun store hstore => by rw [(h store hstore).set_eq_set (a.reading s) r]
    have hdeclared : ∀ store ∈ a.store? (a.write p.1 p.2 s), store.Declared :=
      hwrite ▸ declared_map h fun store hstore => hstore.set r p.1 p.2
    rw [List.foldl_cons, ih hdeclared, hwrite, Option.map_map]
    rfl

variable {s' : σ} {failure? : Option ε}

/-- After one event the store has had the writes of this event. -/
theorem store?_step (hhandle : a.handle event (a.writeAll event s) = (failure?, s')) :
    a.store? s' = (a.store? s).map (·.setAll r event.variables) := by
  have hkept := a.store?_handle event (a.writeAll event s)
  rw [hhandle] at hkept
  rw [hkept, store?_writeAll h r]

omit r in
theorem declared_step (hhandle : a.handle event (a.writeAll event s) = (failure?, s')) :
    ∀ store ∈ a.store? s', store.Declared := by
  rw [store?_step h (a.reading s) hhandle]
  exact declared_map h fun store hstore => hstore.setAll _ _

/-- At each call the store has had the writes of the events up to this one. If the handler fails, this call
is the last one. -/
theorem of_getElem?_calls {i : Nat} {found : σ} (hcall : (a.calls events s)[i]? = some (event, found)) :
    events[i]? = some event ∧
      a.store? found = (a.store? s).map (·.setAll r (writes (events.take (i + 1)))) ∧
      ∀ failure, (a.handle event found).1 = some failure → (a.calls events s).length = i + 1 ∧
        a.accept events s = (some failure, (a.handle event found).2) := by
  induction events generalizing i s with
  | nil => simp [Receiver.calls] at hcall
  | cons first events ih =>
    cases i with
    | zero =>
      obtain ⟨rfl, rfl⟩ : first = event ∧ a.writeAll first s = found := Prod.mk.inj (Option.some.inj hcall)
      refine ⟨rfl, ?_, fun failure hfailure => ?_⟩
      · rw [store?_writeAll h r, List.take_succ_cons, List.take_zero, writes, List.flatMap_singleton]
      · obtain ⟨hcalls, haccept⟩ := Receiver.calls_of_failed (Prod.ext hfailure rfl) events
        rw [hcalls, haccept]
        exact ⟨rfl, rfl⟩
    | succ i =>
      cases hhandle : a.handle first (a.writeAll first s) with
      | mk failure? s' =>
      cases failure? with
      | some failure =>
        -- there is no second call after a failure
        rw [(Receiver.calls_of_failed hhandle events).1] at hcall
        simp at hcall
      | none =>
        obtain ⟨hcalls, haccept⟩ := Receiver.calls_of_passed hhandle events
        rw [hcalls] at hcall
        obtain ⟨hevent, hstore, hfails⟩ := ih (declared_step h hhandle) hcall
        refine ⟨hevent, ?_, fun failure hfailure => ?_⟩
        · rw [hstore, store?_step h r hhandle, map_setAll]
          rfl
        · obtain ⟨hlength, hresult⟩ := hfails failure hfailure
          rw [hcalls, haccept, List.length_cons, hlength]
          exact ⟨rfl, hresult⟩

theorem of_passed_calls (hpassed : ∀ call ∈ a.calls events s, (a.handle call.1 call.2).1 = none) :
    (a.calls events s).map Prod.fst = events ∧ (a.accept events s).1 = none ∧
      a.store? (a.accept events s).2 = (a.store? s).map (·.setAll r (writes events)) := by
  induction events generalizing s with
  | nil => exact ⟨rfl, rfl, by simp [Receiver.accept, writes, Store.setAll]⟩
  | cons first events ih =>
    have hfirst : (a.handle first (a.writeAll first s)).1 = none := hpassed _ List.mem_cons_self
    have hhandle : a.handle first (a.writeAll first s) = (none, (a.handle first (a.writeAll first s)).2) :=
      Prod.ext hfirst rfl
    obtain ⟨hcalls, haccept⟩ := Receiver.calls_of_passed hhandle events
    rw [hcalls] at hpassed ⊢
    obtain ⟨hevents, hnone, hstore⟩ := ih (declared_step h hhandle) (List.forall_mem_cons.1 hpassed).2
    rw [haccept, List.map_cons, hevents, hstore, store?_step h r hhandle, map_setAll]
    exact ⟨rfl, hnone, rfl⟩

end

/-- How the events of a line reach an audience. -/
structure Informed (a : Audience σ ε) (r : Reading) (tags : List Tag) (s : σ) (events : List GameEvent) : Prop where
  /-- The handler is told of the events in order. When it is told of one, the store has had the writes of the
  events up to this one, and no others. -/
  call : ∀ i event found, (a.calls events s)[i]? = some (event, found) →
    events[i]? = some event ∧ a.store? found = (a.store? s).map (·.setAll r (writes (events.take (i + 1))))
  /-- A failure of the handler gets out, and there are no further calls and writes. -/
  failed : ∀ i event found failure, (a.calls events s)[i]? = some (event, found) →
    (a.handle event found).1 = some failure →
      (a.calls events s).length = i + 1 ∧ (a.classify tags s).1 = .error (.inr failure) ∧
        a.store? (a.classify tags s).2 = (a.store? s).map (·.setAll r (writes (events.take (i + 1))))
  /-- Without a failure there is one call for each event, and the store has had all writes. -/
  passed : (∀ call ∈ a.calls events s, (a.handle call.1 call.2).1 = none) →
    (a.calls events s).map Prod.fst = events ∧ (a.classify tags s).1 = .ok events ∧
      a.store? (a.classify tags s).2 = (a.store? s).map (·.setAll r (writes events)) ∧
      ∀ store ∈ a.store? s, ∀ final ∈ a.store? (a.classify tags s).2, Updated events store final
  /-- The events are the same without a store and a handler. -/
  alone : (Receiver.nobody.classify tags ()).1 = .ok events

/-- A line that cannot be classified reaches nobody. The events of every other line reach an audience one by
one, each after its own writes. -/
theorem informed_classify (a : Audience σ ε) (tags : List Tag) (s : σ) (h : ∀ store ∈ a.store? s, store.Declared)
    (r : Reading) :
    (∃ e, GameEvent.ofTags tags = .error e ∧ a.classify tags s = (.error (.inl e), s)) ∨
      ∃ events, GameEvent.ofTags tags = .ok events ∧ a.Informed r tags s events := by
  cases hevents : GameEvent.ofTags tags with
  | error e => exact .inl ⟨e, rfl, Receiver.classify_of_error hevents⟩
  | ok events =>
    refine .inr ⟨events, rfl, ?_, ?_, ?_, ?_⟩
    · intro i event found hcall
      obtain ⟨hevent, hstore, -⟩ := of_getElem?_calls h r hcall
      exact ⟨hevent, hstore⟩
    · intro i event found failure hcall hfailure
      obtain ⟨-, hstore, hfails⟩ := of_getElem?_calls h r hcall
      obtain ⟨hlength, haccept⟩ := hfails failure hfailure
      rw [Receiver.classify_of_failed hevents haccept, a.store?_handle]
      exact ⟨hlength, rfl, hstore⟩
    · intro hpassed
      obtain ⟨hcalls, hnone, hstore⟩ := of_passed_calls h r hpassed
      rw [Receiver.classify_of_passed hevents (Prod.ext hnone rfl)]
      refine ⟨hcalls, rfl, hstore, fun store hmem final hfinal => ?_⟩
      obtain rfl : store.setAll r (writes events) = final := by
        rw [hstore, Option.mem_def.1 hmem] at hfinal
        exact Option.some.inj hfinal
      exact updated_setAll (h store hmem) (GameEvent.nodup_keys_of_ofTags hevents) r
    · rw [Receiver.classify_of_passed hevents (Receiver.accept_nobody events)]

end Audience

end MudClient.Stream

/-! ## Sessions -/

namespace MudClient.Session

open Markup (Tag)
open MudClient.Stream (Audience GameEvent Receiver)
open Variables (Reading Store)

/-- The handler of a session reads the store and takes down what it sees. -/
def watching (w : Watch) : Audience (Desk × List Sight) Failure where
  toReceiver := watcher w
  store? s := if w.writes then some s.1.state.store else none
  reading s := s.1.state.reading
  store?_write key value s := by
    simp only [watcher]
    split <;> rfl
  store?_handle event s := by
    by_cases htells : w.tells <;> simp [watcher, htells]

theorem classify_eq (d : Desk) (tags : List Tag) (w : Watch) :
    classify d tags w =
      match (watching w).classify tags (d, []) with
      | (.ok events, d, seen) => answered d (.events events seen.reverse)
      | (.error (.inl e), d, _) => failed d (.reference e)
      | (.error (.inr failure), d, seen) => answered d (.stopped failure seen.reverse) := by
  cases hevents : GameEvent.ofTags tags with
  | error e =>
    rw [classify, hevents, Receiver.classify_of_error hevents]
  | ok events =>
    rw [classify, hevents]
    cases haccept : (watcher w).accept events (d, []) with
    | mk failure? s =>
      cases failure? with
      | none => simp only [haccept, Receiver.classify_of_passed hevents (r := (watching w).toReceiver) haccept]
      | some failure =>
        simp only [haccept, Receiver.classify_of_failed hevents (r := (watching w).toReceiver) haccept]

/-- The handler fails when it is told of the second of three prompts. The third one is never written. -/
theorem informed_classify_prompts :
    let prompt (t : Text) : Tag := ⟨"prompt".toList, .empty, t, [], false⟩
    let tags := [prompt ['a'], ⟨"nav".toList, .empty, [], [], true⟩, prompt ['b'], prompt ['c']]
    let reading : Reading := ⟨⟨0, .unknown⟩, .default⟩
    let store := Store.global ['k']
    let d : Desk := ⟨.empty, [], [], ⟨store, reading, .hub, false⟩⟩
    let a := watching ⟨true, true, some 2⟩
    (∀ store ∈ a.store? (d, []), store.Declared) ∧
      (a.classify tags (d, [])).1 = .error (.inr (.watcher 2)) ∧
      a.store? (a.classify tags (d, [])).2 =
        some (store.setAll reading [("prompt".toList, ['a']), ("prompt".toList, ['b'])]) := by
  intro prompt tags reading store d a
  have hdeclared : ∀ store ∈ a.store? (d, []), store.Declared := by
    rintro _ ⟨⟩
    exact (Store.Made.new _ _).declared
  have hprompt (c : Char) (hc : '&' ∉ [c]) : GameEvent.ofTag (prompt [c]) =
      .ok (some ⟨.prompt, [prompt [c]], [("prompt".toList, Text.trim [c])]⟩) := by
    rw [GameEvent.ofTag_prompt rfl, GameEvent.ofPrompt, CharacterReference.decode_of_no_ampersand hc]
    rfl
  have hevents : GameEvent.ofTags tags = .ok [⟨.prompt, [prompt ['a']], [("prompt".toList, ['a'])]⟩,
      ⟨.nav, [⟨"nav".toList, .empty, [], [], true⟩], []⟩,
      ⟨.prompt, [prompt ['b']], [("prompt".toList, ['b'])]⟩,
      ⟨.prompt, [prompt ['c']], [("prompt".toList, ['c'])]⟩] := by
    simp only [GameEvent.ofTags, tags, List.mapM_cons, hprompt 'a' (by decide), hprompt 'b' (by decide),
      hprompt 'c' (by decide)]
    rfl
  refine ⟨hdeclared, ?_⟩
  rcases Audience.informed_classify a tags (d, []) hdeclared reading with ⟨e, he, -⟩ | ⟨events, he, hinformed⟩
  · rw [hevents] at he
    cases he
  · obtain rfl := Except.ok.inj (hevents.symm.trans he)
    obtain ⟨-, hresult, hstore⟩ := hinformed.failed 2 _ _ (.watcher 2) rfl rfl
    exact ⟨hresult, hstore⟩

end MudClient.Session
