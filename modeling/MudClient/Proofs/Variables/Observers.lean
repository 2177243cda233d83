import Mathlib.Data.List.Lex
import MudClient.Proofs.Variables.Contents

/-!
# What is seen of a store

* `Record`: variables with their texts in the order in which they came, and what calls make of them
* `HasTexts`, `Store.Renders`: variables that have the texts of a record
* `Store.renders_perform`, `Store.renders_performAll`: a call, and calls one after the other
* `Store.Observed`: all that can be read from a store agrees with a record
* `Store.observed_performAll`: it does so after all calls
-/

set_option autoImplicit false

namespace MudClient.Variables

/-! ## Records -/

/-- Variables with their texts, each once, in the order in which they came. -/
abbrev Record := List (Text × Text)

namespace Record

def names (m : Record) : List Text :=
  m.map Prod.fst

/-- A variable that is there keeps its place, and a new one comes last. -/
def write (m : Record) (key text : Text) : Record :=
  if key ∈ m.names then m.map fun p => if p.1 = key then (key, text) else p else m ++ [(key, text)]

def text? (m : Record) (key : Text) : Option Text :=
  (m.find? fun p : Text × Text => p.1 = key).map Prod.snd

/-- The computed variables at one moment. -/
def computed (r : Reading) (fixed : List (Text × DynamicKind)) : Record :=
  fixed.foldl (fun m p => write m p.1 (Calendar.format r.platform r.now (r.pattern p.2))) []

/-- A record after a call; `start` has the computed variables, which no call changes. -/
def perform (start m : Record) : StoreCall → Record
  | .set _ key value => if key ∈ start.names then m else m.write key (value.getD [])
  | .remove key => if key ∈ start.names then m else m.filter fun p => p.1 ≠ key
  | .clear => start
  | .close => m

/-- The record after calls on a store that had only its computed variables. -/
def after (r : Reading) (fixed : List (Text × DynamicKind)) (calls : List StoreCall) : Record :=
  calls.foldl (perform (computed r fixed)) (computed r fixed)

variable {m : Record} {key text : Text} {p : Text × Text}

theorem text?_eq_some_iff (h : m.names.Nodup) : m.text? key = some text ↔ (key, text) ∈ m := by
  induction m with
  | nil => simp [text?]
  | cons p m ih =>
    obtain ⟨key', text'⟩ := p
    obtain ⟨hkey, hm⟩ := List.nodup_cons.1 h
    rw [text?, List.find?_cons, List.mem_cons, Prod.mk.injEq]
    by_cases hk : key' = key
    · subst hk
      have hnot : (key', text) ∉ m := fun hp => hkey (List.mem_map.2 ⟨_, hp, rfl⟩)
      simp [hnot, eq_comm]
    · simpa [hk, Ne.symm hk, text?] using ih hm

theorem text?_eq_none_iff : m.text? key = none ↔ key ∉ m.names := by
  simp only [text?, Option.map_eq_none_iff, List.find?_eq_none, decide_eq_true_eq, names, List.mem_map, not_exists,
    not_and]

theorem map_write_of_notMem (h : key ∉ m.names) (text : Text) :
    m.map (fun p => if p.1 = key then (key, text) else p) = m := by
  have hne : ∀ p ∈ m, p.1 ≠ key := fun p hp e => h (e ▸ List.mem_map_of_mem hp)
  calc m.map (fun p => if p.1 = key then (key, text) else p)
    _ = m.map id := List.map_congr_left fun p hp => if_neg (hne p hp)
    _ = m := List.map_id m

theorem write_cons_self (h : key ∉ m.names) (old text : Text) :
    write ((key, old) :: m) key text = (key, text) :: m := by
  rw [write, if_pos (by simp [names]), List.map_cons, if_pos rfl, map_write_of_notMem h]

theorem write_cons_of_ne (h : p.1 ≠ key) (m : Record) (text : Text) :
    write (p :: m) key text = p :: m.write key text := by
  have hmem : key ∈ names (p :: m) ↔ key ∈ m.names := by simp [names, h.symm]
  simp only [write, hmem, List.map_cons, if_neg h, List.cons_append]
  split <;> rfl

theorem mem_names_write (m : Record) (key text name : Text) :
    name ∈ (m.write key text).names ↔ name ∈ m.names ∨ name = key := by
  rw [write]
  split
  · next hkey =>
    have hnames : names (m.map fun p => if p.1 = key then (key, text) else p) = m.names := by
      rw [names, List.map_map]
      refine List.map_congr_left fun p _ => ?_
      rw [Function.comp_apply]
      split
      · next h => exact h.symm
      · rfl
    rw [hnames]
    exact ⟨.inl, fun h => h.elim id fun h => h ▸ hkey⟩
  · simp [names]

theorem mem_names_computed (r : Reading) (fixed : List (Text × DynamicKind)) (name : Text) :
    name ∈ (computed r fixed).names ↔ name ∈ fixed.map Prod.fst := by
  have hfold (m : Record) :
      name ∈ names (fixed.foldl (fun m p => write m p.1 (Calendar.format r.platform r.now (r.pattern p.2))) m) ↔
        name ∈ m.names ∨ name ∈ fixed.map Prod.fst := by
    induction fixed generalizing m with
    | nil => simp
    | cons p fixed ih =>
      rw [List.foldl_cons, ih, mem_names_write, or_assoc, List.map_cons, List.mem_cons]
  exact (hfold []).trans (or_iff_right List.not_mem_nil)

theorem write_eq_put (h : m.names.Nodup) (key text : Text) : m.write key text = OrderedMap.put key text m := by
  induction m with
  | nil => rfl
  | cons p m ih =>
    obtain ⟨hp, hm⟩ := List.nodup_cons.1 h
    rw [OrderedMap.put]
    split
    · next hkey =>
      subst hkey
      exact write_cons_self hp p.2 text
    · next hkey => rw [write_cons_of_ne hkey, ih hm]

/-- Writing the text that a variable has changes nothing. -/
theorem write_of_mem (h : m.names.Nodup) (hp : p ∈ m) : m.write p.1 p.2 = m := by
  induction m with
  | nil => cases hp
  | cons q m ih =>
    obtain ⟨hq, hm⟩ := List.nodup_cons.1 h
    rcases List.mem_cons.1 hp with rfl | hp
    · exact write_cons_self hq p.2 p.2
    · have hne : q.1 ≠ p.1 := fun e => hq (e ▸ List.mem_map_of_mem hp)
      rw [write_cons_of_ne hne, ih hm hp]

end Record

/-! ## Stores with the texts of a record -/

theorem map_put {ν ν' : Type} (f : ν → ν') (key : Text) (v : ν) (ps : List (Text × ν)) :
    (OrderedMap.put key v ps).map (Prod.map id f) = OrderedMap.put key (f v) (ps.map (Prod.map id f)) := by
  induction ps with
  | nil => rfl
  | cons p ps ih =>
    simp only [OrderedMap.put, List.map_cons, Prod.map_fst, id_eq]
    split
    · rfl
    · rw [List.map_cons, ih]

/-- Each variable has the text that a record has for it, in the place that it has there. -/
def HasTexts (b : OrderedMap Text Binding) (r : Reading) (m : Record) : Prop :=
  b.toList.map (Prod.map id (Binding.evaluate r)) = m.map (Prod.map id some)

namespace HasTexts

variable {b : OrderedMap Text Binding} {r : Reading} {m : Record}

theorem keys_eq (h : HasTexts b r m) : b.keys = m.names := by
  have hnames := congrArg (List.map Prod.fst) h
  simpa [OrderedMap.keys, Record.names, Function.comp_def] using hnames

theorem nodup_names (h : HasTexts b r m) : m.names.Nodup :=
  h.keys_eq ▸ b.nodup_keys

theorem get?_bind (h : HasTexts b r m) (key : Text) : (b.get? key).bind (Binding.evaluate r) = m.text? key := by
  ext text
  calc (b.get? key).bind (Binding.evaluate r) = some text
    _ ↔ ∃ c, (key, c) ∈ b.toList ∧ c.evaluate r = some text := by
      simp only [Option.bind_eq_some_iff, OrderedMap.get?_eq_some_iff]
    _ ↔ (key, some text) ∈ b.toList.map (Prod.map id (Binding.evaluate r)) := by simp
    _ ↔ (key, some text) ∈ m.map (Prod.map id some) := by rw [h]
    _ ↔ (key, text) ∈ m := by simp
    _ ↔ m.text? key = some text := (Record.text?_eq_some_iff h.nodup_names).symm

theorem getD_eq (h : HasTexts b r m) : (b.toList.map fun p => (p.1, (p.2.evaluate r).getD [])) = m :=
  calc b.toList.map (fun p => (p.1, (p.2.evaluate r).getD []))
    _ = (b.toList.map (Prod.map id (Binding.evaluate r))).map (Prod.map id (·.getD [])) := by
      rw [List.map_map]
      rfl
    _ = (m.map (Prod.map id some)).map (Prod.map id (·.getD [])) := by rw [h]
    _ = m := by
      rw [List.map_map]
      exact List.map_id m

theorem insert (h : HasTexts b r m) (key text : Text) {c : Binding} (hc : c.evaluate r = some text) :
    HasTexts (b.insert key c) r (m.write key text) := by
  rw [HasTexts, OrderedMap.toList_insert, map_put, h, hc, Record.write_eq_put h.nodup_names, map_put]

theorem erase (h : HasTexts b r m) (key : Text) : HasTexts (b.erase key) r (m.filter fun p => p.1 ≠ key) :=
  calc (b.toList.filter fun p => p.1 ≠ key).map (Prod.map id (Binding.evaluate r))
    _ = (b.toList.map (Prod.map id (Binding.evaluate r))).filter fun p => p.1 ≠ key := by
      rw [List.filter_map]
      rfl
    _ = (m.map (Prod.map id some)).filter fun p => p.1 ≠ key := by rw [h]
    _ = (m.filter fun p => p.1 ≠ key).map (Prod.map id some) := by
      rw [List.filter_map]
      rfl

end HasTexts

namespace Store

/-- The variables of a store have the texts of a record, and those that are computed stay so. -/
structure Renders (s : Store) (r : Reading) (fixed : List (Text × DynamicKind)) (m : Record) : Prop where
  fixed_eq : s.fixed = fixed
  shows : ∃ contents, s.Shows (fixed.map Prod.fst) contents
  texts : HasTexts s.bindings r m

variable {s : Store} {r : Reading} {fixed : List (Text × DynamicKind)} {m : Record}

theorem texts_addDynamics (h : HasTexts s.bindings r m) (kinds : List (Text × DynamicKind)) :
    HasTexts (s.addDynamics kinds).bindings r
      (kinds.foldl (fun m p => m.write p.1 (Calendar.format r.platform r.now (r.pattern p.2))) m) := by
  induction kinds generalizing s m with
  | nil => exact h
  | cons p kinds ih => exact ih (s := s.addDynamic p.1 p.2) (h.insert p.1 _ rfl)

theorem renders_fresh (hb : s.bindings = .empty) (hd : s.dynamicKeys = []) (r : Reading) :
    (s.addDynamics s.fixed).Renders r s.fixed (Record.computed r s.fixed) := by
  refine ⟨?_, ⟨_, shows_addDynamics hb hd⟩, texts_addDynamics ?_ s.fixed⟩
  · obtain ⟨bindings, keys, h⟩ := exists_addDynamics s s.fixed
    rw [h]
  · rw [hb]
    rfl

theorem renders_new (eventKey : Text) (fixed : List (Text × DynamicKind)) (r : Reading) :
    (new eventKey fixed).Renders r fixed (Record.computed r fixed) :=
  renders_fresh (s := ⟨eventKey, fixed, .empty, [], [], false⟩) rfl rfl r

theorem texts_set (h : s.Renders r fixed m) (r' : Reading) (key : Text) (value : Option Text)
    (hkey : key ∉ fixed.map Prod.fst) :
    HasTexts (s.set r' key value).1.bindings r (m.write key (value.getD [])) := by
  obtain ⟨contents, hshows⟩ := h.shows
  rw [bindings_set hshows]
  split
  · next hsame =>
    -- the store is left as it is, and the record has the text already
    have htext : m.text? key = some (value.getD []) := by
      rw [← h.texts.get?_bind]
      exact (get?_of_shows hshows r hkey).trans (hsame.resolve_left hkey)
    have hnodup := h.texts.nodup_names
    rw [Record.write_of_mem hnodup ((Record.text?_eq_some_iff hnodup).1 htext)]
    exact h.texts
  · exact h.texts.insert key _ rfl

theorem renders_perform (h : s.Renders r fixed m) (call : StoreCall) :
    (call.perform s).1.Renders r fixed (Record.perform (Record.computed r fixed) m call) := by
  obtain ⟨contents, hshows⟩ := h.shows
  have hdynamic (key : Text) : s.isDynamic key = decide (key ∈ fixed.map Prod.fst) := by
    simp only [isDynamic, hshows.dynamic_iff]
  refine ⟨(fixed_perform s call).trans h.fixed_eq, ⟨_, shows_perform hshows call⟩, ?_⟩
  cases call with
  | set r' key value =>
    simp only [Record.perform, Record.mem_names_computed]
    split
    · next hkey =>
      rw [StoreCall.perform, set_eq hshows, if_pos (.inl hkey)]
      exact h.texts
    · next hkey => exact texts_set h r' key value hkey
  | remove key =>
    simp only [StoreCall.perform, remove, hdynamic, Record.perform, Record.mem_names_computed, decide_eq_true_eq]
    split
    · exact h.texts
    · exact h.texts.erase key
  | clear =>
    obtain rfl := h.fixed_eq
    exact (renders_fresh (s := { s with bindings := .empty, dynamicKeys := [] }) rfl rfl r).texts
  | close => exact h.texts

/-- A store after calls, one after the other. -/
def performAll (s : Store) (calls : List StoreCall) : Store :=
  calls.foldl (fun s call => (call.perform s).1) s

theorem renders_performAll (eventKey : Text) (fixed : List (Text × DynamicKind)) (calls : List StoreCall)
    (r : Reading) : ((new eventKey fixed).performAll calls).Renders r fixed (Record.after r fixed calls) := by
  have hfold (s : Store) (m : Record) (h : s.Renders r fixed m) :
      (s.performAll calls).Renders r fixed (calls.foldl (Record.perform (Record.computed r fixed)) m) := by
    induction calls generalizing s m with
    | nil => exact h
    | cons call calls ih => exact ih _ _ (renders_perform h call)
  exact hfold _ _ (renders_new eventKey fixed r)

/-! ## Reading -/

/-- All that can be read from a store at one moment agrees with a record. -/
structure Observed (s : Store) (r : Reading) (m : Record) : Prop where
  get?_eq : ∀ key, s.get? r key = m.text? key
  contains_iff : ∀ key, s.contains key ↔ s.get? r key ≠ none
  mem_keys_iff : ∀ key, key ∈ s.keys ↔ s.contains key
  mem_snapshot_iff : ∀ key, key ∈ (s.snapshot r).map Prod.fst ↔ s.contains key
  /-- In the order of code points, no key twice. -/
  snapshot_ascending : (s.snapshot r).Pairwise fun p q => p.1.map Char.toNat < q.1.map Char.toNat
  snapshot_get? : ∀ p ∈ s.snapshot r, s.get? r p.1 = some p.2
  keys_nodup : s.keys.Nodup
  keys_longest : s.keys.Pairwise fun k l => l.length ≤ k.length
  /-- Keys of one length stay in the order of the record. -/
  keys_filter : ∀ n, s.keys.filter (·.length = n) = m.names.filter (·.length = n)
  size_keys : s.size = s.keys.length
  size_snapshot : s.size = (s.snapshot r).length

theorem lex_eq (k l : Text) :
    k.lex l (fun a b => a.toNat < b.toNat) = decide (k.map Char.toNat < l.map Char.toNat) := by
  induction k generalizing l with
  | nil => cases l <;> simp
  | cons c k ih =>
    cases l with
    | nil => simp
    | cons d l => simp [List.cons_lex_cons, ih, List.cons_lt_cons_iff, Char.toNat_inj, Bool.beq_eq_decide_eq]

theorem snapshot_eq (h : HasTexts s.bindings r m) :
    s.snapshot r = m.mergeSort fun p q => p.1.map Char.toNat ≤ q.1.map Char.toNat := by
  have horder (p q : Text × Binding) :
      (!q.1.lex p.1 fun a b => a.toNat < b.toNat) = decide (p.1.map Char.toNat ≤ q.1.map Char.toNat) := by
    rw [lex_eq, ← decide_not, decide_eq_decide]
    exact not_lt
  simp only [snapshot, horder]
  rw [← h.getD_eq]
  exact List.map_mergeSort fun _ _ _ _ => rfl

/-- Sorting keeps elements that are equal for the order as they were. -/
theorem filter_mergeSort {α : Type} {le : α → α → Bool} {q : α → Bool}
    (htrans : ∀ a b c, le a b → le b c → le a c) (htotal : ∀ a b, le a b || le b a)
    (hq : ∀ a b, q a → q b → le a b) (l : List α) : (l.mergeSort le).filter q = l.filter q := by
  have hsorted : (l.filter q).Pairwise fun a b => le a b :=
    List.pairwise_filter.2 (List.pairwise_of_forall hq)
  have hkept : ((l.filter q).filter q).Sublist ((l.mergeSort le).filter q) :=
    (List.sublist_mergeSort htrans htotal hsorted List.filter_sublist).filter q
  rw [List.filter_filter] at hkept
  simp only [Bool.and_self] at hkept
  exact (hkept.eq_of_length ((List.mergeSort_perm l le).filter q).length_eq.symm).symm

theorem codes_injective : Function.Injective (List.map Char.toNat) :=
  List.map_injective_iff.2 fun _ _ => Char.toNat_inj.1

theorem snapshot_ascending (hnodup : m.names.Nodup) :
    (m.mergeSort fun p q => p.1.map Char.toNat ≤ q.1.map Char.toNat).Pairwise
      fun p q => p.1.map Char.toNat < q.1.map Char.toNat := by
  have hsorted : (m.mergeSort fun p q => p.1.map Char.toNat ≤ q.1.map Char.toNat).Pairwise
      fun p q => decide (p.1.map Char.toNat ≤ q.1.map Char.toNat) :=
    List.pairwise_mergeSort (fun p q u hp hq => by simpa using le_trans (of_decide_eq_true hp) (of_decide_eq_true hq))
      (fun p q => by simpa using le_total (p.1.map Char.toNat) (q.1.map Char.toNat)) m
  have hdistinct : (m.mergeSort fun p q => p.1.map Char.toNat ≤ q.1.map Char.toNat).Pairwise
      fun p q => p.1 ≠ q.1 :=
    List.pairwise_map.1 (((List.mergeSort_perm m _).map Prod.fst).nodup_iff.2 hnodup)
  refine (hsorted.and hdistinct).imp fun {p q} h => ?_
  exact lt_of_le_of_ne (of_decide_eq_true h.1) fun e => h.2 (codes_injective e)

theorem longest_trans (k l m : Text) (h : decide (l.length ≤ k.length)) (h' : decide (m.length ≤ l.length)) :
    decide (m.length ≤ k.length) := by
  simp only [decide_eq_true_eq] at h h' ⊢
  omega

theorem longest_total (k l : Text) : decide (l.length ≤ k.length) || decide (k.length ≤ l.length) := by
  simp only [Bool.or_eq_true, decide_eq_true_eq]
  omega

theorem observed_of_renders (h : s.Renders r fixed m) : s.Observed r m := by
  have hnames := h.texts.keys_eq
  have hnodup := h.texts.nodup_names
  have hget : ∀ key, s.get? r key = m.text? key := h.texts.get?_bind
  have hcontains (key : Text) : s.contains key ↔ key ∈ m.names := by
    simp only [contains, OrderedMap.contains, hnames, decide_eq_true_eq]
  have hkeys : s.keys.Perm m.names := hnames ▸ List.mergeSort_perm _ _
  have hsnapshot := snapshot_eq h.texts
  have hperm : (s.snapshot r).Perm m := hsnapshot ▸ List.mergeSort_perm _ _
  have hsize : s.size = m.length := by
    simpa [size, OrderedMap.size, OrderedMap.keys, Record.names] using congrArg List.length hnames
  exact {
    get?_eq := hget
    contains_iff := fun key => by
      rw [hcontains, hget, Ne, Record.text?_eq_none_iff, not_not]
    mem_keys_iff := fun key => hkeys.mem_iff.trans (hcontains key).symm
    mem_snapshot_iff := fun key => (hperm.map Prod.fst).mem_iff.trans (hcontains key).symm
    snapshot_ascending := hsnapshot ▸ snapshot_ascending hnodup
    snapshot_get? := fun p hp => (hget p.1).trans ((Record.text?_eq_some_iff hnodup).2 (hperm.mem_iff.1 hp))
    keys_nodup := hkeys.nodup_iff.2 hnodup
    keys_longest := by
      simpa [keys] using List.pairwise_mergeSort longest_trans longest_total s.bindings.keys
    keys_filter := fun n => by
      rw [← hnames]
      exact filter_mergeSort longest_trans longest_total (by simp; omega) _
    size_keys := hsize.trans (by simpa [Record.names] using hkeys.length_eq.symm)
    size_snapshot := hsize.trans hperm.length_eq.symm }

/-- Whatever calls are made on a fresh store, plain or with computed variables, all that can be read from it at any
moment agrees with the record of the calls: a map in the order of insertion, in which a text that is missing counts
as the empty one. Subscripts are `get?` and `set`. -/
theorem observed_performAll (eventKey : Text) (fixed : List (Text × DynamicKind)) (calls : List StoreCall)
    (r : Reading) : ((new eventKey fixed).performAll calls).Observed r (Record.after r fixed calls) :=
  observed_of_renders (renders_performAll eventKey fixed calls r)

end Store

end MudClient.Variables
